import RealModeMonitor.Monitor.Basic
import RealModeMonitor.Port.Operand

/-!
# Devices, ports and services of a session

**Attaching** a device opens its module and puts it into the session. **Installing** it also
routes its own ports to it; if one of them cannot be routed, the device is taken out again and its
module closed.

**Port accesses** go byte by byte to the devices their ports are routed to. Asking a session for
the state of its timer brings the timer up to date first.
-/

namespace RealModeMonitor.Monitor

/-! ## Attaching and installing -/

/-- Open the module that a device of this kind needs. -/
def openForDevice (t : ModuleTable) (kind : DeviceKind) :
    Traced (Except MonitorError Unit × ModuleTable) :=
  match kind.moduleName? with
  | some name => t.openModule name 0
  | none => pure (.ok (), t)

/-- Put a device into a session, routed to no port. -/
def attachDevice (m : Monitor) (id : VmId) (d : Device) :
    Traced (Except MonitorError DeviceId × Monitor) :=
  match m.registry.get? id with
  | none => pure (.error (.noSuchVm id), m)
  | some vm => do
    let (r, modules) ← openForDevice m.modules d.kind
    match r with
    | .error e => return (.error e, { m with modules })
    | .ok () =>
      let (device, vm) := vm.attach d
      Traced.tell (.deviceAttached id device)
      return (.ok device, { m with modules, registry := m.registry.set id vm })

/-- Put a device into a session and route its ports to it. -/
def installDevice (m : Monitor) (id : VmId) (d : Device) :
    Traced (Except MonitorError DeviceId × Monitor) :=
  match m.registry.get? id with
  | none => pure (.error (.noSuchVm id), m)
  | some vm => do
    let (r, modules) ← openForDevice m.modules d.kind
    match r with
    | .error e => return (.error e, { m with modules })
    | .ok () =>
      let (r, vm) := vm.install d
      match r with
      | .ok device =>
        Traced.tell (.deviceInstalled id d.name)
        return (.ok device, { m with modules, registry := m.registry.set id vm })
      | .error e =>
        let modules ← closeForDevice modules d.kind
        Traced.tell (.installFailed id d.name e)
        return (.error e, { m with modules, registry := m.registry.set id vm })

def installPic (m : Monitor) (id : VmId) : Traced (Except MonitorError DeviceId × Monitor) :=
  m.installDevice id (.pic .initial)

def installPit (m : Monitor) (id : VmId) : Traced (Except MonitorError DeviceId × Monitor) :=
  m.installDevice id (.pit .initial)

def installDma (m : Monitor) (id : VmId) : Traced (Except MonitorError DeviceId × Monitor) :=
  m.installDevice id (.dma .initial)

/-- The CMOS memory tells the size of the session's memory. -/
def installCmos (m : Monitor) (id : VmId) : Traced (Except MonitorError DeviceId × Monitor) := do
  let (r, m) ← m.inspectVm id fun vm => .ok vm.guest.memory.size
  match r with
  | .error e => return (.error e, m)
  | .ok size => m.installDevice id (.cmos (.initial size))

/-- Run operations in order up to the first that fails. -/
def inOrder (m : Monitor) : List (Monitor → Traced (Except MonitorError DeviceId × Monitor)) →
    Traced (Except MonitorError Unit × Monitor)
  | [] => pure (.ok (), m)
  | f :: rest => do
    let (r, m) ← f m
    match r with
    | .error e => return (.error e, m)
    | .ok _ => m.inOrder rest

/-- All four built-in devices. The controller comes before the timer that raises a line on it. -/
def installStandardDevices (m : Monitor) (id : VmId) :
    Traced (Except MonitorError Unit × Monitor) :=
  m.inOrder
    [(·.installPic id), (·.installPit id), (·.installDma id), (·.installCmos id)]

/-! ## Routes -/

/-- Route a range to a device that is present. -/
def addIoHandler (m : Monitor) (id : VmId) (range : PortRange) (device : DeviceId) :
    Traced (Except MonitorError Unit × Monitor) :=
  m.tryUpdateVm id fun vm =>
    if vm.hasDevice device then (vm.io.add range device).map fun io => { vm with io }
    else .error (.noSuchDevice id .any)

/-- Unroute exactly this range. -/
def removeIoHandler (m : Monitor) (id : VmId) (range : PortRange) : Monitor :=
  match m.registry.get? id with
  | none => m
  | some vm =>
    { m with registry := m.registry.set id { vm with io := (vm.io.remove range).2 } }

def ioHandler? (m : Monitor) (id : VmId) (port : UInt16) : Option PortEntry :=
  (m.registry.get? id).bind fun vm => vm.io.get? port

/-! ## Port accesses -/

/-- A guest reads. Says whether a device answered, and gives the bytes. -/
def ioIn (m : Monitor) (id : VmId) (port : UInt16) (operand : Operand) :
    Traced (Except MonitorError (Bool × List UInt8) × Monitor) :=
  m.withVm id fun vm => do
    let ((handled, bytes), vm) ← vm.readBytes m.clock port operand.width
    if m.ioTrace then
      Traced.tell (.portRead id port bytes handled)
    return (.ok (handled, bytes), vm)

/-- A guest writes. Says whether a device took a byte. -/
def ioOut (m : Monitor) (id : VmId) (port : UInt16) (operand : Operand) :
    Traced (Except MonitorError Bool × Monitor) :=
  m.withVm id fun vm => do
    let (handled, vm) ← vm.writeBytes m.clock port operand.bytes
    if m.ioTrace then
      Traced.tell (.portWrite id port operand.bytes handled)
    return (.ok handled, vm)

def setIoTrace (m : Monitor) (on : Bool) : Monitor := { m with ioTrace := on }

/-! ## Services -/

def addService (m : Monitor) (id : VmId) (s : Service) :
    Traced (Except MonitorError Unit × Monitor) :=
  m.tryUpdateVm id fun vm => (vm.services.add s).map fun services => { vm with services }

def removeService (m : Monitor) (id : VmId) (number : UInt8) : Monitor :=
  match m.registry.get? id with
  | none => m
  | some vm =>
    { m with registry := m.registry.set id { vm with services := vm.services.remove number } }

def serviceName? (m : Monitor) (id : VmId) (number : UInt8) : Option String :=
  (m.registry.get? id).bind fun vm => vm.services.name? number

/-- A guest calls the monitor. Says whether there is such a service. -/
def dispatchService (m : Monitor) (id : VmId) (number : UInt8) :
    Traced (Except MonitorError Bool × Monitor) :=
  m.withVm id fun vm => do
    let (found, services, guest) ← vm.services.dispatch id number vm.guest
    return (.ok found, { vm with services, guest })

/-! ## State of devices -/

/-- The session's interrupt controller as it is now. -/
def controllerOf (m : Monitor) (id : VmId) :
    Traced (Except MonitorError InterruptController × Monitor) :=
  m.inspectVm id fun vm =>
    match vm.controller? with
    | some (_, c) => .ok c
    | none => .error (.noSuchDevice id .pic)

/-- Look at the session's timer, brought up to date. -/
def inspectTimer {α : Type} (m : Monitor) (id : VmId) (f : IntervalTimer → Except MonitorError α) :
    Traced (Except MonitorError α × Monitor) :=
  m.withVm id fun vm => do
    let vm ← vm.syncTimer m.clock
    return match vm.timer? with
      | some (_, t) => (f t, vm)
      | none => (.error (.noSuchDevice id .pit), vm)

def timerChannel (m : Monitor) (id : VmId) (n : UInt8) :
    Traced (Except MonitorError ChannelView × Monitor) :=
  m.inspectTimer id fun t =>
    match IntervalTimer.channelOf? n with
    | some i => .ok (t.channel i).view
    | none => .error (.device (.channelOutOfRange n))

def timerChannels (m : Monitor) (id : VmId) :
    Traced (Except MonitorError (List ChannelView) × Monitor) :=
  m.inspectTimer id fun t => .ok t.views

/-- Tell a watcher of every expiration of a timer channel from now on, or nobody. -/
def watchTimer (m : Monitor) (id : VmId) (n : UInt8) (watcher : Option String) :
    Traced (Except MonitorError Unit × Monitor) :=
  m.tryUpdateVm id fun vm =>
    match vm.timer? with
    | none => .error (.noSuchDevice id .pit)
    | some (device, t) =>
      match t.watch n watcher with
      | .ok t => .ok (vm.setDevice device (some (.pit t)))
      | .error e => .error (.device e)

def dmaProgram (m : Monitor) (id : VmId) (n : UInt8) :
    Traced (Except MonitorError DmaProgram × Monitor) :=
  m.inspectVm id fun vm =>
    match vm.dma? with
    | none => .error (.noSuchDevice id .dma)
    | some (_, d) =>
      match d.program n with
      | .ok p => .ok p
      | .error e => .error (.device e)

def setDmaProgram (m : Monitor) (id : VmId) (n : UInt8) (p : DmaProgram) :
    Traced (Except MonitorError Unit × Monitor) :=
  m.tryUpdateVm id fun vm =>
    match vm.dma? with
    | none => .error (.noSuchDevice id .dma)
    | some (device, d) =>
      match d.setProgram n p with
      | .ok d => .ok (vm.setDevice device (some (.dma d)))
      | .error e => .error (.device e)

end RealModeMonitor.Monitor
