import RealModeMonitor.CommandLine.Options
import RealModeMonitor.Monitor.Commands
import RealModeMonitor.Monitor.Interrupts

/-!
# Running guests from the command line

The program starts sessions with the standard devices, sets each up as firmware would (a handler
for the timer's vector, the interrupt controllers, channel 0 of the timer), and lets host time
pass in batches of ticks. After each batch it stands in for the guests: a guest whose timer
interrupt is in service ends it and returns.

At last it tells for each session how often its timer expired and how many interrupts it took,
runs the given shell commands, and kills the sessions. The first failure ends the program; what
was written by then stays written.
-/

namespace RealModeMonitor.CommandLine

/-- Why the program ends early. -/
inductive Failure where
  | monitor (e : MonitorError)
  | memory (e : MemoryError)
  | shell (e : ShellError)
  deriving DecidableEq

def Failure.message : Failure → String
  | monitor e => e.message
  | memory e => e.message
  | shell e => e.message

/-- A result of the monitor without its trace, where an error ends the program. -/
def settled {α : Type} (x : Traced (Except MonitorError α × Monitor)) :
    Except Failure (α × Monitor) :=
  match x.val with
  | (.ok a, m) => .ok (a, m)
  | (.error e, _) => .error (.monitor e)

/-! ## Setting a guest up -/

/-- Where the guest's handler of timer interrupts begins. -/
def timerHandler : FarPointer := ⟨0xF000, 0xFEA5⟩

def timerVector : UInt8 := 0x08

/-- Registers and vector table of a guest that is about to run. -/
def bootActions : List Guest.Action :=
  [.setRegisters
      { cs := some 0x1000, ip := some 0, ss := some 0x9000, sp := some 0xFFFE, flags := some 2 },
    .memory (.writeVector timerVector timerHandler)]

/-- Controllers in cascade with only the timer unmasked, then channel 0 counting `reload`
periodically. -/
def bootWrites (reload : UInt16) : List (UInt16 × UInt8) :=
  [(0x20, 0x11), (0x21, 0x08), (0x21, 0x04), (0x21, 0x01),
    (0xA0, 0x11), (0xA1, 0x70), (0xA1, 0x02), (0xA1, 0x01),
    (0x21, 0xFE), (0xA1, 0xFF),
    (0x43, 0x34), (0x40, Byte.lowByte reload), (0x40, Byte.highByte reload)]

/-- Write bytes to ports of a session. -/
def writeAll (id : VmId) (m : Monitor) (writes : List (UInt16 × UInt8)) :
    Except Failure Monitor :=
  writes.foldlM (fun m (port, value) => (settled (m.ioOut id port (.byte value))).map Prod.snd) m

/-- The first failed access to memory among replies. -/
def firstFault? (replies : List Guest.Reply) : Option MemoryError :=
  replies.findSome? fun
    | .memory (.failed e) => some e
    | _ => none

def boot (m : Monitor) (id : VmId) (reload : UInt16) : Except Failure Monitor := do
  let (replies, m) ← settled (m.withGuest id bootActions)
  match firstFault? replies with
  | some e => .error (.memory e)
  | none =>
    let m ← writeAll id m (bootWrites reload)
    (settled (m.enableInterrupts id)).map Prod.snd

/-- Start one session and set its guest up. -/
def startSession (reload : UInt16) (m : Monitor) : Except Failure (VmId × Monitor) := do
  let (id, m) ← settled m.createVm
  let ((), m) ← settled (m.installStandardDevices id)
  let m ← boot m id reload
  return (id, m)

/-- Start `n` more sessions after the ones in `ids`. -/
def startSessions (reload : UInt16) : Nat → List VmId → Monitor →
    Except Failure (List VmId × Monitor)
  | 0, ids, m => .ok (ids, m)
  | n + 1, ids, m =>
    match startSession reload m with
    | .error e => .error e
    | .ok (id, m) => startSessions reload n (ids ++ [id]) m

/-! ## Letting time pass -/

/-- `ticks` in batches of `step`, at least one, and a shorter last one if some are left. -/
def batches (ticks step : Nat) : List Nat :=
  let step := max step 1
  List.replicate (ticks / step) step ++ if ticks % step = 0 then [] else [ticks % step]

/-- If the guest's timer interrupt is in service, end it and return from the handler. -/
def finishHandler (m : Monitor) (id : VmId) : Except Failure Monitor := do
  let (c, m) ← settled (m.controllerOf id)
  if (Line.ofNumber? IntervalTimer.timerLine).any c.isInService then
    let (_, m) ← settled (m.ioOut id InterruptController.masterCommand (.byte 0x20))
    (settled (m.guestIret id)).map Prod.snd
  else .ok m

/-- One batch of ticks, and what the guests do then. -/
def runBatch (ids : List VmId) (m : Monitor) (n : Nat) : Except Failure Monitor :=
  ids.foldlM finishHandler (m.timerTick (UInt32.ofNat n)).val

def runBatches (ids : List VmId) (m : Monitor) (ns : List Nat) : Except Failure Monitor :=
  ns.foldlM (runBatch ids) m

/-! ## Reporting -/

/-- What was written so far, and the monitor unless the program failed. -/
structure Progress where
  output : String
  result : Except Failure Monitor

/-- Go on with one more piece of output, unless the program failed. -/
def Progress.step (p : Progress) (f : Monitor → Except Failure (String × Monitor)) : Progress :=
  match p.result with
  | .error _ => p
  | .ok m =>
    match f m with
    | .error e => { p with result := .error e }
    | .ok (text, m) => ⟨p.output ++ text, .ok m⟩

/-- The line that tells how a session's timer fared. -/
def sessionLine (m : Monitor) (id : VmId) : Except Failure (String × Monitor) := do
  let (c, m) ← settled (m.controllerOf id)
  let (t, m) ← settled (m.timerChannel id 0)
  return (id.text ++ ": " ++ toString t.expirations ++ " timer expirations, " ++
    toString c.delivered ++ " interrupts delivered\n", m)

def commandText (m : Monitor) (line : String) : Except Failure (String × Monitor) :=
  match (m.runShell line).val with
  | (.ok text, m) => .ok (text, m)
  | (.error e, _) => .error (.shell e)

/-! ## The program -/

def config (o : Options) : Config where
  maxVms := o.maxVms
  tickHz := o.tickHz
  guestMemory := o.memoryKb * 1024 % UInt64.size

/-- Sessions are started and time passes. -/
def runGuests (o : Options) : Except Failure (List VmId × Monitor) :=
  match (Monitor.start (config o)).val with
  | .error e => .error (.monitor e)
  | .ok m => do
    let (ids, m) ← startSessions o.reload o.vms [] (m.setIoTrace o.dbio)
    let m ← runBatches ids m (batches o.ticks.toNat o.step.toNat)
    return (ids, m)

/-- Kill the sessions at the end. -/
def killAll (ids : List VmId) (m : Monitor) : Monitor :=
  ids.foldl (fun m id => (m.kill id).val) m

/-- The program with acceptable options. -/
def run (o : Options) : Progress :=
  match runGuests o with
  | .error e => ⟨"", .error e⟩
  | .ok (ids, m) =>
    let told := ids.foldl (fun (p : Progress) id => p.step fun m => sessionLine m id) ⟨"", .ok m⟩
    let ended := o.commands.foldl
      (fun (p : Progress) line => p.step fun m => commandText m line) told
    { ended with result := ended.result.map (killAll ids) }

/-- What the program leaves behind. -/
inductive Outcome where
  /-- The arguments are not acceptable. -/
  | refused
  | finished (code : UInt32) (output errors : String)
  deriving DecidableEq

def outcome (arguments : List String) : Outcome :=
  match Options.ofArguments? arguments with
  | none => .refused
  | some o =>
    let p := run o
    match p.result with
    | .ok _ => .finished 0 p.output ""
    | .error e => .finished 1 p.output ("Error: " ++ e.message ++ "\n")

end RealModeMonitor.CommandLine
