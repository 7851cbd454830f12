import RealModeMonitor.Guest.Run

/-!
# Monitor calls

Guest software calls the monitor through an instruction that virtual-8086 mode refuses, `ARPL`; a
service number chooses what the call does. A session keeps its services in the order of their
numbers.

A handler acts on the guest. What it does may depend on how often it was called before; a handler
registered anew starts counting at one.
-/

namespace RealModeMonitor

structure Service where
  number : UInt8
  name : String
  /-- What the handler does on its `n`-th call. -/
  actions : Nat → List Guest.Action
  /-- Calls so far. -/
  calls : Nat := 0

structure ServiceTable where
  services : List Service := []

namespace ServiceTable

def find? (t : ServiceTable) (number : UInt8) : Option Service :=
  t.services.find? fun s => s.number = number

/-- Put a service before the first one with a larger number. -/
def insertService (s : Service) : List Service → List Service
  | [] => [s]
  | x :: rest => if x.number < s.number then x :: insertService s rest else s :: x :: rest

/-- Register a handler, unless the number is taken. -/
def add (t : ServiceTable) (s : Service) : Except MonitorError ServiceTable :=
  if (t.find? s.number).isSome then
    .error (.conflict s.number.toUInt16 s.number.toUInt16)
  else .ok ⟨insertService s t.services⟩

def remove (t : ServiceTable) (number : UInt8) : ServiceTable :=
  ⟨t.services.filter fun s => s.number ≠ number⟩

def name? (t : ServiceTable) (number : UInt8) : Option String :=
  (t.find? number).map Service.name

/-- Numbers and names. -/
def names (t : ServiceTable) : List (UInt8 × String) :=
  t.services.map fun s => (s.number, s.name)

/-- The table after one more call of `number`. -/
def countCall (t : ServiceTable) (number : UInt8) : ServiceTable :=
  ⟨t.services.map fun s => if s.number = number then { s with calls := s.calls + 1 } else s⟩

/-- Run the handler of `number`, if there is one, for the guest of session `vm`. -/
def dispatch (t : ServiceTable) (vm : VmId) (number : UInt8) (g : Guest) :
    Traced (Bool × ServiceTable × Guest) :=
  match t.find? number with
  | none => pure (false, t, g)
  | some s => do
    let count := s.calls + 1
    let (replies, g) ← g.run (s.actions count)
    Traced.record (.serviceCalled vm s.name count replies)
    return (true, t.countCall number, g)

end ServiceTable
end RealModeMonitor
