import RealModeMonitor.Device.Bus
import RealModeMonitor.Port.Range

/-!
# Devices supplied from outside

A collaborator's device answers each access from what it has seen so far: `respond` is given all
accesses, the newest first, and says what a read gives and what the device does. So a device may
keep any state it likes, and two devices with the same answers are the same.

Every call of such a device is recorded, also a tick at which it does nothing.
-/

namespace RealModeMonitor

structure Device.Response where
  /-- The byte that a read gives. -/
  value : UInt8 := 0xFF
  actions : List Device.Action := []

structure ExternalDevice where
  name : String
  /-- The kind it passes for, which decides the module that is opened for it. -/
  kind : DeviceKind := .external
  /-- The ports it is routed to on installation. -/
  ranges : List PortRange := []
  respond : List Device.Access → Device.Response
  /-- Accesses so far, the newest first. -/
  history : List Device.Access := []

namespace ExternalDevice

def access (d : ExternalDevice) (a : Device.Access) (b : Bus) :
    Traced (UInt8 × ExternalDevice × Bus) := do
  let d := { d with history := a :: d.history }
  let response := d.respond d.history
  let (replies, b) ← b.run response.actions
  Traced.record (.device d.name b.vm a replies)
  return (response.value, d, b)

/-- A teardown can act on nothing any more. -/
def teardown (d : ExternalDevice) (vm : VmId) : Traced Unit :=
  Traced.record (.device d.name vm .teardown [])

end ExternalDevice

/-- A simple device for trying out a session: reads give one value, a write may raise the line
that is written, and each tick may raise a fixed line. -/
structure Probe where
  name : String
  kind : DeviceKind := .external
  ranges : List PortRange := []
  readValue : UInt8 := 0xFF
  raisesWritten : Bool := false
  tickLine : Option UInt8 := none

namespace Probe

def respond (p : Probe) : Device.Access → Device.Response
  | .read _ => { value := p.readValue }
  | .write _ value => { actions := if p.raisesWritten then [.raise value] else [] }
  | .tick _ => { actions := p.tickLine.toList.map .raise }
  | .teardown => {}

def device (p : Probe) : ExternalDevice where
  name := p.name
  kind := p.kind
  ranges := p.ranges
  respond
    | newest :: _ => p.respond newest
    | [] => {}

end Probe
end RealModeMonitor
