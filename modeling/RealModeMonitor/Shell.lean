/-!
# Commands of the operator's shell

Commands have unique names. A batch of new commands is registered as a whole or, if one of its
names is taken or comes twice, not at all.

The commands the monitor brings along are told apart from a collaborator's, which answers with text
and sees of the monitor what `ShellView` shows. It is handed the monitor and may ask it for other
operations on the way. These are not part of the command here: each of them is an operation of the
run like any other, before the one that runs the command.
-/

namespace RealModeMonitor

inductive ShellError where
  | unknownCommand (name : String)
  | duplicate (name : String)
  | usage (text : String)
  | empty
  deriving DecidableEq

def ShellError.message : ShellError → String
  | unknownCommand name => "unknown command: " ++ name
  | duplicate name => "command already registered: " ++ name
  | usage text => "usage: " ++ text
  | empty => "empty command line"

/-- What a collaborator's command sees of the monitor when it answers. -/
structure ShellView where
  liveVms : Nat
  now : UInt32

inductive ShellAction where
  | vminfo
  | dbio
  | modules
  | help
  | external (run : ShellView → List String → Except ShellError String)

structure ShellCommand where
  name : String
  help : String
  action : ShellAction

structure Shell where
  commands : List ShellCommand

namespace Shell

def vminfoHelp : String := "vminfo [-io] [-arpl] [-pic] [-pit]"

def dbioHelp : String := "dbio -on|-off"

/-- The commands the monitor brings along. -/
def initial : Shell :=
  ⟨[⟨"vminfo", vminfoHelp, .vminfo⟩, ⟨"dbio", dbioHelp, .dbio⟩, ⟨"modules", "modules", .modules⟩,
    ⟨"help", "help", .help⟩]⟩

def names (s : Shell) : List String := s.commands.map ShellCommand.name

def lookup? (s : Shell) (name : String) : Option ShellCommand :=
  s.commands.find? fun c => c.name = name

/-- The first name of a batch that is taken, by `taken` or by an earlier one of the batch. -/
def firstClash? (taken : List String) : List ShellCommand → Option String
  | [] => none
  | c :: rest => if c.name ∈ taken then some c.name else firstClash? (c.name :: taken) rest

/-- Register a batch. -/
def add (s : Shell) (batch : List ShellCommand) : Except ShellError Shell :=
  match firstClash? s.names batch with
  | some name => .error (.duplicate name)
  | none => .ok ⟨s.commands ++ batch⟩

end Shell
end RealModeMonitor
