import RealModeMonitor.Memory

/-!
# A guest and its interrupts

While a guest does not run, what it will see on resumption is its saved **frame**: `CS:IP`,
`SS:SP` and `FLAGS`. An interrupt edits the frame as the processor would: it pushes `FLAGS`, `CS`
and `IP` on the guest's stack, clears `IF` and `TF`, and continues at the vector's target. `iret`
undoes this.

**Virtual interrupt flag.** `IF` in the saved `FLAGS` is the guest's own interrupt flag; the
monitor delivers interrupt requests only while it is set.

**Faults.** An interrupt or a return whose vector or stack lies outside memory leaves the frame
as it was and marks the guest faulted.
-/

namespace RealModeMonitor

/-- Saved registers of a guest. -/
structure Frame where
  cs : UInt16 := 0
  ip : UInt16 := 0
  ss : UInt16 := 0
  sp : UInt16 := 0xFFFE
  flags : UInt16 := 2
  deriving DecidableEq

namespace Frame

/-- Bit 1 of `FLAGS`, which is always set. -/
def reservedFlag : UInt16 := 0x0002

def trapFlag : UInt16 := 0x0100

def interruptFlag : UInt16 := 0x0200

/-- `FLAGS` on entry to an interrupt handler. -/
def handlerFlags (flags : UInt16) : UInt16 :=
  (flags &&& ~~~(interruptFlag ||| trapFlag)) ||| reservedFlag

/-- The address of the stack word `below` bytes below the stack pointer, which wraps. -/
def pushAddress (f : Frame) (below : UInt16) : Nat := linear f.ss (f.sp - below)

/-- The address of the stack word `above` bytes above the stack pointer, which wraps. -/
def popAddress (f : Frame) (above : UInt16) : Nat := linear f.ss (f.sp + above)

end Frame

inductive InjectError where
  /-- The guest must not be entered now. -/
  | notResumable
  | memory (e : MemoryError)
  deriving DecidableEq

def InjectError.message : InjectError → String
  | notResumable => "guest is not resumable"
  | memory e => "interrupt frame outside guest memory: " ++ e.message

structure Guest where
  frame : Frame := {}
  memory : Memory
  /-- Whether the guest's owner lets it be entered. -/
  admitted : Bool := true
  /-- Whether its teardown has begun. -/
  dying : Bool := false
  /-- Whether an interrupt or a return touched an address outside memory. -/
  faulted : Bool := false
  /-- Interrupts taken so far. -/
  injected : Nat := 0
  lastVector : Option UInt8 := none

/-- What can be seen of a guest besides its memory. -/
structure GuestView where
  frame : Frame
  resumable : Bool
  injected : Nat
  lastVector : Option UInt8
  deriving DecidableEq

namespace Guest

def isResumable (g : Guest) : Bool := g.admitted && !g.dying

/-- The virtual interrupt flag. -/
def vif (g : Guest) : Bool := g.frame.flags &&& Frame.interruptFlag != 0

def setVif (g : Guest) (on : Bool) : Guest :=
  let flags := g.frame.flags
  { g with frame.flags :=
      if on then flags ||| Frame.interruptFlag else flags &&& ~~~Frame.interruptFlag }

def view (g : Guest) : GuestView := ⟨g.frame, g.isResumable, g.injected, g.lastVector⟩

/-! ## Interrupts -/

/-- Push words at the given addresses in order, stopping at the first that fails. -/
def pushWords (m : Memory) : List (Nat × UInt16) → Except MemoryError Unit × Memory
  | [] => (.ok (), m)
  | (address, w) :: rest =>
    match m.writeWord address w with
    | (.ok (), m) => pushWords m rest
    | failed => failed

/-- The stack words of an interrupt and their addresses, in the order they are pushed. -/
def interruptWords (f : Frame) : List (Nat × UInt16) :=
  [(f.pushAddress 2, f.flags), (f.pushAddress 4, f.cs), (f.pushAddress 6, f.ip)]

/-- Read the vector's target, then push the interrupt's words. -/
def pushFrame (g : Guest) (vector : UInt8) : Except MemoryError FarPointer × Memory :=
  match g.memory.readVector vector with
  | .error e => (.error e, g.memory)
  | .ok target =>
    let (pushed, memory) := pushWords g.memory (interruptWords g.frame)
    (pushed.map fun _ => target, memory)

/-- Take the guest through its vector table. -/
def interrupt (g : Guest) (vector : UInt8) : Except InjectError Unit × Guest :=
  if g.isResumable then
    match g.pushFrame vector with
    | (.error e, memory) => (.error (.memory e), { g with memory, faulted := true })
    | (.ok target, memory) =>
      let frame := { g.frame with
        cs := target.segment
        ip := target.offset
        sp := g.frame.sp - 6
        flags := Frame.handlerFlags g.frame.flags }
      (.ok (), { g with frame, memory, injected := g.injected + 1, lastVector := some vector })
  else (.error .notResumable, g)

/-- Pop `IP`, `CS` and `FLAGS`. -/
def popFrame (g : Guest) : Except MemoryError Frame := do
  let ip ← g.memory.readWord (g.frame.popAddress 0)
  let cs ← g.memory.readWord (g.frame.popAddress 2)
  let flags ← g.memory.readWord (g.frame.popAddress 4)
  return { g.frame with ip, cs, sp := g.frame.sp + 6, flags := flags ||| Frame.reservedFlag }

/-- Return from an interrupt handler. -/
def iret (g : Guest) : Except MemoryError Unit × Guest :=
  match g.popFrame with
  | .ok frame => (.ok (), { g with frame })
  | .error e => (.error e, { g with faulted := true })

end Guest
end RealModeMonitor
