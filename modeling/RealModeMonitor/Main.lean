import RealModeMonitor.CommandLine.Run

/-!
# The program

Prints what `CommandLine.outcome` says and ends with its code. Arguments that are not acceptable
end it with code 2.
-/

open RealModeMonitor

def main (arguments : List String) : IO UInt32 := do
  match CommandLine.outcome arguments with
  | .refused =>
    (← IO.getStderr).putStr "error: the arguments are not acceptable\n"
    return 2
  | .finished code output errors =>
    (← IO.getStdout).putStr output
    (← IO.getStderr).putStr errors
    return code
