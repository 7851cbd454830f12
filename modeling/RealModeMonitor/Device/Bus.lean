import RealModeMonitor.Clock
import RealModeMonitor.InterruptController.Basic

/-!
# The bus

During a call a device sees its session through a bus: the session's name, the clock as it stands
for the whole call, the guest, and the interrupt controller if the session has one besides the
device itself.
-/

namespace RealModeMonitor

structure Bus where
  vm : VmId
  clock : Clock
  guest : Guest
  controller : Option InterruptController

namespace Bus

/-- Raise a line on the session's controller. Without one the request is lost. -/
def raise (b : Bus) (line : UInt8) : Traced (Except InjectError IrqOutcome × Bus) :=
  match b.controller with
  | none => do
    Traced.tell (.irqWithoutController b.vm line)
    return (.ok .dropped, b)
  | some c => do
    let (r, c, guest) ← c.raise b.vm line b.guest
    return (r, { b with controller := some c, guest })

def act (b : Bus) : Device.Action → Traced (Device.Reply × Bus)
  | .raise line => do
    let (r, b) ← b.raise line
    return (.raised r, b)
  | .guest a => do
    let (r, guest) ← b.guest.act a
    return (.guest r, { b with guest })

/-- Do the actions in order. -/
def run (b : Bus) : List Device.Action → Traced (List Device.Reply × Bus)
  | [] => pure ([], b)
  | a :: rest => do
    let (r, b) ← b.act a
    let (rs, b) ← b.run rest
    return (r :: rs, b)

end Bus
end RealModeMonitor
