import RealModeMonitor.Device.Basic
import RealModeMonitor.Port.HandlerTable
import RealModeMonitor.ServiceTable

/-!
# A guest session

A session (VM) owns a guest, an **arena** of devices, the routes from ports to devices, the
services of monitor calls, and the list of what is to be done at its death. A device is named by
its place in the arena; places are never used twice.

**Calls.** While a device is called it is lifted out of the arena, and sees the rest of the session
through a bus. The session's interrupt controller is the first one in the arena.
-/

namespace RealModeMonitor

/-- One step of a session's teardown. -/
inductive KillHandler where
  | device (id : DeviceId)
  /-- A collaborator's handler. -/
  | callback (name : String)
  deriving DecidableEq

structure Vm where
  id : VmId
  guest : Guest
  devices : List (Option Device) := []
  io : HandlerTable
  services : ServiceTable := {}
  /-- Teardown steps, in the order in which they run. -/
  killHandlers : List KillHandler := []
  /-- The host task that runs the session. -/
  task : Option UInt32 := none

namespace Vm

/-- A session with blank memory and no devices. -/
def new (id : VmId) (memory : Memory) (ioHandlers : Nat) : Vm where
  id := id
  guest := { memory }
  io := { capacity := ioHandlers }

/-! ## The arena -/

def device? (vm : Vm) (id : DeviceId) : Option Device := (vm.devices[id]?).join

def setDevice (vm : Vm) (id : DeviceId) (d : Option Device) : Vm :=
  { vm with devices := vm.devices.set id d }

theorem device?_setDevice (vm : Vm) (id other : DeviceId) (d : Option Device) :
    (vm.setDevice id d).device? other =
      if id = other ∧ id < vm.devices.length then d else vm.device? other := by
  simp only [setDevice, device?, List.getElem?_set]
  by_cases hid : id = other
  · subst hid
    by_cases hlt : id < vm.devices.length
    · simp [hlt]
    · simp [hlt]
  · simp [hid]

def hasDevice (vm : Vm) (id : DeviceId) : Bool := (vm.device? id).isSome

/-- Devices that are present with their names, in the order in which they were attached. -/
def present (vm : Vm) : List (DeviceId × Device) :=
  vm.devices.zipIdx.filterMap fun (d, i) => d.map fun d => (i, d)

def deviceIds (vm : Vm) : List DeviceId := vm.present.map Prod.fst

/-- The first device of an arena, whose places are counted from `i` on, for which `f` gives
something. -/
def firstOf? {α : Type} (f : Device → Option α) (i : DeviceId) :
    List (Option Device) → Option (DeviceId × α)
  | [] => none
  | d :: rest =>
    match d.bind f with
    | some a => some (i, a)
    | none => firstOf? f (i + 1) rest

/-- The first device for which `f` gives something. -/
def findDevice? {α : Type} (vm : Vm) (f : Device → Option α) : Option (DeviceId × α) :=
  firstOf? f 0 vm.devices

def controller? (vm : Vm) : Option (DeviceId × InterruptController) :=
  vm.findDevice? Device.controller?

def timer? (vm : Vm) : Option (DeviceId × IntervalTimer) := vm.findDevice? Device.timer?

def dma? (vm : Vm) : Option (DeviceId × DmaController) := vm.findDevice? Device.dma?

/-- Put a device at the end of the arena, to be torn down in its turn. -/
def attach (vm : Vm) (d : Device) : DeviceId × Vm :=
  let id := vm.devices.length
  (id, { vm with
    devices := vm.devices ++ [some d]
    killHandlers := vm.killHandlers ++ [.device id] })

/-- Take a device out again, with its routes and its teardown. -/
def detach (vm : Vm) (id : DeviceId) : Vm :=
  { vm.setDevice id none with
    io := vm.io.removeDevice id
    killHandlers := vm.killHandlers.filter fun h => h ≠ .device id }

/-- Put a device at the end of the arena and route its ports to it. If one of them cannot be routed,
the device is taken out again, with the routes that it got before. -/
def install (vm : Vm) (d : Device) : Except MonitorError DeviceId × Vm :=
  let (id, vm) := vm.attach d
  match vm.io.addAll id d.ranges with
  | (.ok (), io) => (.ok id, { vm with io })
  | (.error e, io) => (.error e, { vm with io }.detach id)

/-! ## Calling a device -/

/-- The bus that a device outside the arena sees. -/
def bus (vm : Vm) (clock : Clock) : Bus where
  vm := vm.id
  clock := clock
  guest := vm.guest
  controller := vm.controller?.map Prod.snd

/-- The session after a call that left the bus as `b`. -/
def settle (vm : Vm) (b : Bus) : Vm :=
  let vm := { vm with guest := b.guest }
  match vm.controller?, b.controller with
  | some (id, _), some c => vm.setDevice id (some (.pic c))
  | _, _ => vm

/-- Call device `id`, if it is there. -/
def call {α : Type} (vm : Vm) (id : DeviceId) (clock : Clock)
    (f : Device → Bus → Traced (α × Device × Bus)) : Traced (Option α × Vm) :=
  match vm.device? id with
  | none => pure (none, vm)
  | some d => do
    let lifted := vm.setDevice id none
    let (a, d, b) ← f d (lifted.bus clock)
    return (some a, (lifted.settle b).setDevice id (some d))

/-! ## Ports -/

/-- Read one byte. Ports that no device answers read as ones. -/
def readByte (vm : Vm) (clock : Clock) (port : UInt16) : Traced ((Bool × UInt8) × Vm) :=
  match vm.io.get? port with
  | none => pure ((false, 0xFF), vm)
  | some e => do
    let (value, vm) ← vm.call e.device clock (Device.read port)
    return ((true, value.getD 0xFF), vm)

/-- Write one byte. Ports that no device answers drop it. -/
def writeByte (vm : Vm) (clock : Clock) (port : UInt16) (value : UInt8) : Traced (Bool × Vm) :=
  match vm.io.get? port with
  | none => pure (false, vm)
  | some e => do
    let (_, vm) ← vm.call e.device clock (Device.write port value)
    return (true, vm)

/-- Read `width` bytes from `port` on. Says whether a device answered one of them. -/
def readBytes (vm : Vm) (clock : Clock) (port : UInt16) :
    Nat → Traced ((Bool × List UInt8) × Vm)
  | 0 => pure ((false, []), vm)
  | width + 1 => do
    let ((handled, value), vm) ← vm.readByte clock port
    let ((others, values), vm) ← vm.readBytes clock (port + 1) width
    return ((handled || others, value :: values), vm)

/-- Write bytes from `port` on. Says whether a device answered one of them. -/
def writeBytes (vm : Vm) (clock : Clock) (port : UInt16) : List UInt8 → Traced (Bool × Vm)
  | [] => pure (false, vm)
  | value :: values => do
    let (handled, vm) ← vm.writeByte clock port value
    let (others, vm) ← vm.writeBytes clock (port + 1) values
    return (handled || others, vm)

/-! ## The clock -/

/-- Tell a device that the host clock ticked. -/
def tickDevice (clock : Clock) (vm : Vm) (id : DeviceId) : Traced Vm := do
  let (_, vm) ← vm.call id clock Device.tick
  return vm

/-- Tell every device, in the order in which they were attached. -/
def tick (vm : Vm) (clock : Clock) : Traced Vm := vm.deviceIds.foldlM (tickDevice clock) vm

/-- Bring the timer up to date. -/
def syncTimer (vm : Vm) (clock : Clock) : Traced Vm :=
  match vm.timer? with
  | none => pure vm
  | some (id, _) => tickDevice clock vm id

/-! ## Interrupts -/

/-- Raise a line on the session's controller, if it has one. -/
def raise (vm : Vm) (line : UInt8) : Traced (Option (Except InjectError IrqOutcome) × Vm) :=
  match vm.controller? with
  | none => pure (none, vm)
  | some (id, c) => do
    let (r, c, guest) ← c.raise vm.id line vm.guest
    return (some r, { vm with guest }.setDevice id (some (.pic c)))

/-- Offer the guest what is ready. Without a controller nothing ever is. -/
def deliver (vm : Vm) : Traced (Except InjectError (Option Delivery) × Vm) :=
  match vm.controller? with
  | none => pure (.ok none, vm)
  | some (id, c) => do
    let (r, c, guest) ← c.deliver vm.id vm.guest
    return (r, { vm with guest }.setDevice id (some (.pic c)))

end Vm
end RealModeMonitor
