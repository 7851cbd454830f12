import RealModeMonitor.ModuleTable
import RealModeMonitor.Registry
import RealModeMonitor.Shell

/-!
# The monitor

A monitor owns the host clock, the slots with their sessions, the module table and the shell.
Operations give the new monitor with their result, also when they fail.

**Death.** A session dies by `kill`, or at the end of an operation that left its guest faulted.
Its teardown runs the steps registered on it in order: devices are torn down and their modules
closed, collaborators' handlers run. Then its id dies and its own reference to the module `vm` is
given back.
-/

namespace RealModeMonitor

structure Monitor where
  config : Config
  clock : Clock
  registry : Registry
  modules : ModuleTable := .initial
  shell : Shell := .initial
  /-- Whether every port access is told to the operator. -/
  ioTrace : Bool := false

namespace Monitor

/-- A monitor without sessions at tick 0, if the configuration is usable. -/
def start (config : Config) : Traced (Except MonitorError Monitor) :=
  match config.check with
  | .error e => pure (.error (.invalidConfig e))
  | .ok () => do
    Traced.tell (.monitorStarting config)
    return .ok
      { config, clock := { hz := config.tickHz }, registry := .ofSize config.maxVms }

/-! ## Modules -/

/-- Close a module on behalf of a session. -/
def closeForSession (t : ModuleTable) (name : String) : Traced ModuleTable := do
  let (r, t) ← t.closeModule name
  if let .error e := r then
    Traced.tell (.closeFailed name e)
  return t

/-- Close the module that a device of this kind holds open. -/
def closeForDevice (t : ModuleTable) (kind : DeviceKind) : Traced ModuleTable :=
  match kind.moduleName? with
  | some name => closeForSession t name
  | none => pure t

def openModule (m : Monitor) (name : String) (least : UInt32) :
    Traced (Except MonitorError Unit × Monitor) := do
  let (r, modules) ← m.modules.openModule name least
  return (r, { m with modules })

def closeModule (m : Monitor) (name : String) : Traced (Except MonitorError Unit × Monitor) := do
  let (r, modules) ← m.modules.closeModule name
  return (r, { m with modules })

def expungeModule (m : Monitor) (name : String) : Traced (Except MonitorError Unit × Monitor) := do
  let (r, modules) ← m.modules.expunge name
  return (r, { m with modules })

/-! ## Death -/

/-- One step of a teardown. -/
def teardownStep (s : Vm × ModuleTable) : KillHandler → Traced (Vm × ModuleTable)
  | .device id =>
    match s.1.device? id with
    | none => pure s
    | some d => do
      let (vm, modules) := s
      d.teardown vm.id
      let vm := { vm.setDevice id none with io := vm.io.removeDevice id }
      let modules ← closeForDevice modules d.kind
      Traced.tell (.deviceTornDown vm.id d.name)
      return (vm, modules)
  | .callback name => do
    Traced.tell (.killHandlerRuns s.1.id name)
    Traced.record (.killHandler name s.1.id)
    return s

/-- Tear a session down and let its id die. Says whether it was alive. -/
def bury (m : Monitor) (id : VmId) : Traced (Bool × Monitor) :=
  match m.registry.get? id with
  | none => pure (false, m)
  | some vm => do
    let dying := { vm with guest.dying := true, killHandlers := [] }
    let (_, modules) ← vm.killHandlers.foldlM teardownStep (dying, m.modules)
    let registry := m.registry.remove id
    let modules ← closeForSession modules "vm"
    Traced.tell (.vmKilled id)
    return (true, { m with registry, modules })

/-- Kill a session. Killing the dead does nothing. -/
def kill (m : Monitor) (id : VmId) : Traced Monitor := do
  let (alive, m) ← m.bury id
  unless alive do
    Traced.tell (.killIgnored id)
  return m

/-- Kill a session whose guest is faulted. -/
def killFaulted (m : Monitor) (id : VmId) : Traced Monitor := do
  Traced.tell (.guestFaulted id)
  let (_, m) ← m.bury id
  return m

/-! ## Operations on one session -/

/-- Run `f` on a live session. If it leaves the guest faulted, the session dies. -/
def withVm {α : Type} (m : Monitor) (id : VmId) (f : Vm → Traced (Except MonitorError α × Vm)) :
    Traced (Except MonitorError α × Monitor) :=
  match m.registry.get? id with
  | none => pure (.error (.noSuchVm id), m)
  | some vm => do
    let (r, vm) ← f vm
    let m := { m with registry := m.registry.set id vm }
    let m ← if vm.guest.faulted then m.killFaulted id else pure m
    return (r, m)

/-- Change a live session in a way that always succeeds. -/
def updateVm (m : Monitor) (id : VmId) (f : Vm → Vm) :
    Traced (Except MonitorError Unit × Monitor) :=
  m.withVm id fun vm => pure (.ok (), f vm)

/-- Change a live session unless the change is refused. -/
def tryUpdateVm (m : Monitor) (id : VmId) (f : Vm → Except MonitorError Vm) :
    Traced (Except MonitorError Unit × Monitor) :=
  m.withVm id fun vm => pure <| match f vm with
    | .ok vm => (.ok (), vm)
    | .error e => (.error e, vm)

/-- Look at a live session. -/
def inspectVm {α : Type} (m : Monitor) (id : VmId) (f : Vm → Except MonitorError α) :
    Traced (Except MonitorError α × Monitor) :=
  m.withVm id fun vm => pure (f vm, vm)

/-! ## Sessions -/

/-- Start a session with blank memory and no devices. It holds the module `vm` open. -/
def createVm (m : Monitor) : Traced (Except MonitorError VmId × Monitor) :=
  match Memory.allocate m.config.guestMemory with
  | .error e => pure (.error (.guestMemory e), m)
  | .ok memory =>
    match m.registry.create memory m.config.maxIoHandlers with
    | .error e => pure (.error e, m)
    | .ok (id, registry) => do
      let (r, modules) ← m.modules.openModule "vm" 0
      match r with
      | .error e => return (.error e, { m with registry := registry.remove id, modules })
      | .ok () =>
        Traced.tell (.vmCreated id)
        return (.ok id, { m with registry, modules })

def isAlive (m : Monitor) (id : VmId) : Bool := m.registry.isAlive id

/-- Live sessions in the order of their slots. -/
def vmIds (m : Monitor) : List VmId := m.registry.ids

/-- Have a collaborator's handler run at the session's death. -/
def addKillHandler (m : Monitor) (id : VmId) (name : String) :
    Traced (Except MonitorError Unit × Monitor) :=
  m.updateVm id fun vm => { vm with killHandlers := vm.killHandlers ++ [.callback name] }

/-- Let a host task stand for a session. -/
def bindTask (m : Monitor) (id : VmId) (task : UInt32) :
    Traced (Except MonitorError Unit × Monitor) :=
  m.updateVm id fun vm => { vm with task := some task }

def vmForTask? (m : Monitor) (task : UInt32) : Option VmId := m.registry.forTask? task

end Monitor
end RealModeMonitor
