import RealModeMonitor.Clock
import RealModeMonitor.Config

/-!
# Options of the command line

An option is given as `--name value` or `--name=value`; commands of the shell also as `-c value`,
`-cvalue` or `-c=value`. Only commands may be given more than once. A value in an argument of its
own must not begin with `-`, unless it is that one character. Arguments that belong to no option
are refused, also after `--`.

Numbers are decimal digits after an optional `+`. Numbers of at most 32 bits may also be written
with `-`, which leaves only zero in their range.
-/

namespace RealModeMonitor

namespace CommandLine

inductive OptionName where
  | vms
  | ticks
  | step
  | reload
  | tickHz
  | memoryKb
  | maxVms
  | dbio
  | cmd
  deriving DecidableEq

namespace OptionName

def all : List OptionName := [vms, ticks, step, reload, tickHz, memoryKb, maxVms, dbio, cmd]

def long : OptionName → String
  | vms => "vms"
  | ticks => "ticks"
  | step => "step"
  | reload => "reload"
  | tickHz => "tick-hz"
  | memoryKb => "memory-kb"
  | maxVms => "max-vms"
  | dbio => "dbio"
  | cmd => "cmd"

def ofLong? (s : List Char) : Option OptionName := all.find? fun n => n.long.toList = s

/-- The only option that is a mere switch. -/
def takesValue (n : OptionName) : Bool := n ≠ dbio

def isRepeatable (n : OptionName) : Bool := n = cmd

end OptionName

/-! ## Arguments -/

/-- An option as it was given; a switch has an empty value. -/
structure Given where
  name : OptionName
  value : List Char
  deriving DecidableEq

/-- What one argument is by itself. -/
inductive Argument where
  | given (g : Given)
  | needsValue (name : OptionName)
  /-- `--`, after which nothing is an option. -/
  | optionsEnd
  | stray
  deriving DecidableEq

namespace Argument

/-- An argument after `--`. -/
def ofLong (s : List Char) : Argument :=
  match OptionName.ofLong? (s.takeWhile (· ≠ '=')), s.dropWhile (· ≠ '=') with
  | none, _ => stray
  | some n, [] => if n.takesValue then needsValue n else given ⟨n, []⟩
  | some n, _ :: value => if n.takesValue then given ⟨n, value⟩ else stray

def ofChars : List Char → Argument
  | ['-', '-'] => optionsEnd
  | '-' :: '-' :: s => ofLong s
  | ['-', 'c'] => needsValue .cmd
  | '-' :: 'c' :: '=' :: value => given ⟨.cmd, value⟩
  | '-' :: 'c' :: value => given ⟨.cmd, value⟩
  | _ => stray

end Argument

/-- Whether an argument can be the value of the option before it. -/
def isValue : List Char → Bool
  | ['-'] => true
  | '-' :: _ => false
  | _ => true

/-- The options given, in order, if all arguments belong to some. -/
def scan : List (List Char) → Option (List Given)
  | [] => some []
  | a :: rest =>
    match Argument.ofChars a with
    | .given g => (scan rest).map (g :: ·)
    | .needsValue n =>
      match rest with
      | [] => none
      | value :: rest => if isValue value then (scan rest).map (⟨n, value⟩ :: ·) else none
    | .optionsEnd => if rest.isEmpty then some [] else none
    | .stray => none

/-! ## Numbers -/

/-- A number in decimal digits, at least one. -/
def digits? (s : List Char) : Option Nat :=
  if s.isEmpty || !s.all Char.isDigit then none
  else some (s.foldl (fun n c => 10 * n + (c.toNat - '0'.toNat)) 0)

/-- A number from 0 to `most`, written without `-`. -/
def unsigned? (most : Nat) (s : List Char) : Option Nat :=
  (match s with
    | '+' :: rest => digits? rest
    | _ => digits? s).filter (· ≤ most)

/-- A number from 0 to `most`, which if it is 0 may be written with `-`. -/
def inRange? (most : Nat) (s : List Char) : Option Nat :=
  match s with
  | '-' :: rest => (digits? rest).filter (· = 0)
  | _ => unsigned? most s

/-! ## Options -/

structure Options where
  vms : Nat := 1
  ticks : UInt32 := 1193182
  step : UInt32 := 1000
  reload : UInt16 := 11932
  tickHz : UInt32 := UInt32.ofNat timerInputHz
  memoryKb : Nat := 1088
  maxVms : Nat := 16
  dbio : Bool := false
  commands : List String := []
  deriving DecidableEq

namespace Options

/-- The largest machine word. -/
def largestWord : Nat := UInt64.size - 1

/-- Take one option over. -/
def set (o : Options) (g : Given) : Option Options :=
  match g.name with
  | .vms => (unsigned? largestWord g.value).map fun n => { o with vms := n }
  | .ticks => (inRange? (UInt32.size - 1) g.value).map fun n => { o with ticks := .ofNat n }
  | .step => (inRange? (UInt32.size - 1) g.value).map fun n => { o with step := .ofNat n }
  | .reload => (inRange? (UInt16.size - 1) g.value).map fun n => { o with reload := .ofNat n }
  | .tickHz => (inRange? (UInt32.size - 1) g.value).map fun n => { o with tickHz := .ofNat n }
  | .memoryKb => (unsigned? largestWord g.value).map fun n => { o with memoryKb := n }
  | .maxVms => (unsigned? largestWord g.value).map fun n => { o with maxVms := n }
  | .dbio => some { o with dbio := true }
  | .cmd => some { o with commands := o.commands ++ [String.ofList g.value] }

/-- Whether every option that must not be repeated is given once at most. -/
def withoutRepeats (given : List Given) : Bool :=
  OptionName.all.all fun n => n.isRepeatable || given.countP (fun g => g.name = n) ≤ 1

def ofGiven? (given : List Given) : Option Options :=
  if withoutRepeats given then given.foldlM set {} else none

/-- The options that the arguments give, if they are acceptable. -/
def ofArguments? (arguments : List String) : Option Options :=
  (scan (arguments.map String.toList)).bind ofGiven?

end Options
end CommandLine
end RealModeMonitor
