import RealModeMonitor.Guest.Basic

/-!
# What code in the monitor may do to a guest

Handlers of monitor calls, devices and tools reach a guest through **actions**: they look at its
registers and memory, change them, or make it take an interrupt. Each action has one reply. An
action never leaves the guest half changed, except that a write past the end of memory stores the
bytes that fit.
-/

namespace RealModeMonitor

namespace Memory

inductive Action where
  | size
  | write (address : Nat) (bytes : List UInt8)
  | read (address length : Nat)
  | readWord (address : Nat)
  | writeWord (address : Nat) (w : UInt16)
  | readVector (vector : UInt8)
  | writeVector (vector : UInt8) (target : FarPointer)

inductive Reply where
  | done
  | size (n : Nat)
  | bytes (bs : List UInt8)
  | word (w : UInt16)
  | target (p : FarPointer)
  | failed (e : MemoryError)
  deriving DecidableEq

namespace Reply

/-- The reply to an access that gives a value. -/
def ofResult {α : Type} (f : α → Reply) : Except MemoryError α → Reply
  | .ok a => f a
  | .error e => failed e

end Reply

def perform (m : Memory) : Action → Reply × Memory
  | .size => (.size m.size, m)
  | .read address length => (.ofResult .bytes (m.read address length), m)
  | .readWord address => (.ofResult .word (m.readWord address), m)
  | .readVector vector => (.ofResult .target (m.readVector vector), m)
  | .write address bytes =>
    let (r, m) := m.write address bytes
    (.ofResult (fun _ => .done) r, m)
  | .writeWord address w =>
    let (r, m) := m.writeWord address w
    (.ofResult (fun _ => .done) r, m)
  | .writeVector vector target =>
    let (r, m) := m.writeVector vector target
    (.ofResult (fun _ => .done) r, m)

end Memory

namespace Guest

/-- New values for some of the registers. -/
structure Registers where
  cs : Option UInt16 := none
  ip : Option UInt16 := none
  ss : Option UInt16 := none
  sp : Option UInt16 := none
  flags : Option UInt16 := none

def Registers.onto (r : Registers) (f : Frame) : Frame where
  cs := r.cs.getD f.cs
  ip := r.ip.getD f.ip
  ss := r.ss.getD f.ss
  sp := r.sp.getD f.sp
  flags := r.flags.getD f.flags

inductive Action where
  | memory (a : Memory.Action)
  | setRegisters (r : Registers)
  | view
  | vif
  | setVif (on : Bool)
  | isResumable
  | setResumable (on : Bool)
  | faulted
  | interrupt (vector : UInt8)
  | iret

inductive Reply where
  | done
  | memory (r : Memory.Reply)
  | view (v : GuestView)
  | flag (on : Bool)
  | interruptFailed (e : InjectError)
  | iretFailed (e : MemoryError)
  deriving DecidableEq

def perform (g : Guest) : Action → Reply × Guest
  | .memory a =>
    let (r, memory) := g.memory.perform a
    (.memory r, { g with memory })
  | .setRegisters r => (.done, { g with frame := r.onto g.frame })
  | .view => (.view g.view, g)
  | .vif => (.flag g.vif, g)
  | .setVif on => (.done, g.setVif on)
  | .isResumable => (.flag g.isResumable, g)
  | .setResumable on => (.done, { g with admitted := on })
  | .faulted => (.flag g.faulted, g)
  | .interrupt vector =>
    match g.interrupt vector with
    | (.ok (), g) => (.done, g)
    | (.error e, g) => (.interruptFailed e, g)
  | .iret =>
    match g.iret with
    | (.ok (), g) => (.done, g)
    | (.error e, g) => (.iretFailed e, g)

end Guest
end RealModeMonitor
