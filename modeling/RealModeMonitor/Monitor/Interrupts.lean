import RealModeMonitor.Monitor.Basic

/-!
# Interrupts and time

Whatever may let a guest take an interrupt is followed by an offer of the ready line of highest
priority: a raised line, the guest switching its interrupts on, its return from a handler.

**Ticks.** A host tick moves the clock on and then brings the devices of every session up to date.
Sessions whose guests are faulted by then die after all sessions had their tick.

**Host lines.** A session that grabbed an interrupt line of the host gets its interrupts as if they
were raised on the session itself.
-/

namespace RealModeMonitor.Monitor

/-- Raise a line of a session's controller. -/
def raiseOn (id : VmId) (line : UInt8) (vm : Vm) :
    Traced (Except MonitorError IrqOutcome × Vm) := do
  let (r, vm) ← vm.raise line
  return match r with
    | none => (.error (.noSuchDevice id .pic), vm)
    | some (.error e) => (.error (.ofInject id e), vm)
    | some (.ok outcome) => (.ok outcome, vm)

def raiseIrq (m : Monitor) (id : VmId) (line : UInt8) :
    Traced (Except MonitorError IrqOutcome × Monitor) :=
  m.withVm id (raiseOn id line)

/-- Take a guest through one of its vectors. -/
def interruptVm (m : Monitor) (id : VmId) (vector : UInt8) :
    Traced (Except MonitorError Unit × Monitor) :=
  m.withVm id fun vm => do
    let (r, guest) ← vm.guest.inject vector
    return (match r with
      | .ok () => .ok ()
      | .error e => .error (.ofInject id e), { vm with guest })

/-- Offer a session's guest what is ready. -/
def deliverOn (id : VmId) (vm : Vm) : Traced (Except MonitorError (Option Delivery) × Vm) := do
  let (r, vm) ← vm.deliver
  return (match r with
    | .ok d => .ok d
    | .error e => .error (.ofInject id e), vm)

/-- The guest switched its interrupts on. -/
def enableInterrupts (m : Monitor) (id : VmId) :
    Traced (Except MonitorError (Option Delivery) × Monitor) :=
  m.withVm id fun vm => deliverOn id { vm with guest := vm.guest.setVif true }

/-- The guest switched its interrupts off. -/
def disableInterrupts (m : Monitor) (id : VmId) : Traced (Except MonitorError Unit × Monitor) :=
  m.updateVm id fun vm => { vm with guest := vm.guest.setVif false }

/-- The guest returns from a handler. -/
def guestIret (m : Monitor) (id : VmId) :
    Traced (Except MonitorError (Option Delivery) × Monitor) :=
  m.withVm id fun vm =>
    match vm.guest.iret with
    | (.error e, guest) => pure (.error (.guestMemory e), { vm with guest })
    | (.ok (), guest) => deliverOn id { vm with guest }

def setResumable (m : Monitor) (id : VmId) (on : Bool) :
    Traced (Except MonitorError Unit × Monitor) :=
  m.updateVm id fun vm => { vm with guest.admitted := on }

/-- Act on a session's guest. -/
def withGuest (m : Monitor) (id : VmId) (actions : List Guest.Action) :
    Traced (Except MonitorError (List Guest.Reply) × Monitor) :=
  m.withVm id fun vm => do
    let (replies, guest) ← vm.guest.run actions
    return (.ok replies, { vm with guest })

/-! ## Ticks -/

/-- Tell one session's devices that the clock ticked. -/
def tickSession (clock : Clock) (r : Registry) (id : VmId) : Traced Registry :=
  match r.get? id with
  | none => pure r
  | some vm => do
    let vm ← vm.tick clock
    return r.set id vm

/-- The live sessions whose guests are faulted. -/
def faultedIds (r : Registry) : List VmId :=
  (r.vms.filter fun vm => vm.guest.faulted).map Vm.id

/-- Move the clock on, and no device. -/
def advanceClock (m : Monitor) (n : UInt32) : Monitor := { m with clock := m.clock.advance n }

/-- Move the clock on and bring every device up to date. -/
def timerTick (m : Monitor) (n : UInt32) : Traced Monitor := do
  let m := m.advanceClock n
  let registry ← m.vmIds.foldlM (tickSession m.clock) m.registry
  (faultedIds registry).foldlM killFaulted { m with registry }

/-! ## Host lines -/

/-- Route a host line to a session, unless another one has it. -/
def grabIrq (m : Monitor) (id : VmId) (irq : UInt8) : Traced (Except MonitorError Unit × Monitor) :=
  if m.isAlive id then
    if (m.registry.irqOwner? irq).any fun owner => owner ≠ id then
      pure (.error (.conflict irq.toUInt16 irq.toUInt16), m)
    else
      match m.registry.route irq (some id) with
      | (false, _) => pure (.error (.device (.lineOutOfRange irq)), m)
      | (true, registry) => do
        Traced.tell (.hostIrqGrabbed id irq)
        return (.ok (), { m with registry })
  else pure (.error (.noSuchVm id), m)

/-- Route a host line to nobody. -/
def releaseIrq (m : Monitor) (irq : UInt8) : Monitor :=
  { m with registry := (m.registry.route irq none).2 }

/-- A host line was raised. Nothing happens if nobody grabbed it; else it is raised on the owner's
controller, and the owner dies if that leaves its guest faulted. -/
def hardwareIrq (m : Monitor) (irq : UInt8) :
    Traced (Except MonitorError (Option IrqOutcome) × Monitor) :=
  match m.registry.irqOwner? irq with
  | none => pure (.ok none, m)
  | some id =>
    match m.registry.get? id with
    | none => pure (.error (.noSuchVm id), m)
    | some vm =>
      match vm.controller? with
      | none => pure (.error (.noSuchDevice id .pic), m)
      | some (device, c) => do
        let (r, c, guest) ← c.raise id irq vm.guest
        let m := { m with
          registry := m.registry.set id ({ vm with guest }.setDevice device (some (.pic c))) }
        let m ← if guest.faulted then m.killFaulted id else pure m
        return (match r with
          | .ok outcome => .ok (some outcome)
          | .error e => .error (.ofInject id e), m)

end RealModeMonitor.Monitor
