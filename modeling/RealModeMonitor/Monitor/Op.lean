import RealModeMonitor.Monitor.Commands
import RealModeMonitor.Monitor.Interrupts

/-!
# Operations as data

Everything that can be asked of a monitor, as a type, so that sequences of operations can be run
and spoken about. `perform` gives the reply and the new monitor; `run` does a list in order.
-/

namespace RealModeMonitor

namespace Monitor

inductive Op where
  -- Sessions
  | create
  | kill (vm : VmId)
  | isAlive (vm : VmId)
  | vmIds
  | addKillHandler (vm : VmId) (name : String)
  | bindTask (vm : VmId) (task : UInt32)
  | vmForTask (task : UInt32)
  | summaries
  -- Devices and ports
  | attach (vm : VmId) (d : Device)
  | install (vm : VmId) (d : Device)
  | installPic (vm : VmId)
  | installPit (vm : VmId)
  | installDma (vm : VmId)
  | installCmos (vm : VmId)
  | installStandard (vm : VmId)
  | addIoHandler (vm : VmId) (range : PortRange) (device : DeviceId)
  | removeIoHandler (vm : VmId) (range : PortRange)
  | ioHandler (vm : VmId) (port : UInt16)
  | ioIn (vm : VmId) (port : UInt16) (operand : Operand)
  | ioOut (vm : VmId) (port : UInt16) (operand : Operand)
  | setIoTrace (on : Bool)
  | ioTrace
  -- Services
  | addService (vm : VmId) (s : Service)
  | removeService (vm : VmId) (number : UInt8)
  | serviceName (vm : VmId) (number : UInt8)
  | dispatchService (vm : VmId) (number : UInt8)
  -- Interrupts and time
  | raiseIrq (vm : VmId) (line : UInt8)
  | interrupt (vm : VmId) (vector : UInt8)
  | enableInterrupts (vm : VmId)
  | disableInterrupts (vm : VmId)
  | guestIret (vm : VmId)
  | setResumable (vm : VmId) (on : Bool)
  | withGuest (vm : VmId) (actions : List Guest.Action)
  | timerTick (n : UInt32)
  | advanceClock (n : UInt32)
  | now
  | grabIrq (vm : VmId) (irq : UInt8)
  | releaseIrq (irq : UInt8)
  | hardwareIrq (irq : UInt8)
  -- State of devices
  | controller (vm : VmId)
  | timerChannel (vm : VmId) (n : UInt8)
  | timerChannels (vm : VmId)
  | watchTimer (vm : VmId) (n : UInt8) (watcher : Option String)
  | dmaProgram (vm : VmId) (n : UInt8)
  | setDmaProgram (vm : VmId) (n : UInt8) (p : DmaProgram)
  -- Modules and the shell
  | openModule (name : String) (least : UInt32)
  | closeModule (name : String)
  | expungeModule (name : String)
  | modules
  | addShellCommands (batch : List ShellCommand)
  | shellCommands
  | runShell (line : String)

inductive Reply where
  | done
  | failed (e : MonitorError)
  | shellFailed (e : ShellError)
  | vm (id : VmId)
  | maybeVm (id : Option VmId)
  | vms (ids : List VmId)
  | flag (on : Bool)
  | summaries (s : List VmSummary)
  | device (id : DeviceId)
  | entry (e : Option PortEntry)
  | input (handled : Bool) (bytes : List UInt8)
  | output (handled : Bool)
  | name (n : Option String)
  | irq (o : IrqOutcome)
  | hostIrq (o : Option IrqOutcome)
  | delivery (d : Option Delivery)
  | guest (rs : List Guest.Reply)
  | tick (now : UInt32)
  | controller (c : InterruptController)
  | channel (c : ChannelView)
  | channels (cs : List ChannelView)
  | dma (p : DmaProgram)
  | modules (ms : List (ModuleInfo × Nat))
  | commands (cs : List ShellCommand)
  | text (s : String)

/-- The reply to an operation that may fail. -/
def Reply.ofResult {α : Type} (f : α → Reply) (x : Except MonitorError α × Monitor) :
    Reply × Monitor :=
  match x with
  | (.ok a, m) => (f a, m)
  | (.error e, m) => (failed e, m)

/-- The reply to a shell operation. -/
def Reply.ofShell {α : Type} (f : α → Reply) (x : Except ShellError α × Monitor) :
    Reply × Monitor :=
  match x with
  | (.ok a, m) => (f a, m)
  | (.error e, m) => (shellFailed e, m)

private def doneReply (_ : Unit) : Reply := .done

def perform (m : Monitor) : Op → Traced (Reply × Monitor)
  | .create => Reply.ofResult .vm <$> m.createVm
  | .kill id => do return (.done, ← m.kill id)
  | .isAlive id => pure (.flag (m.isAlive id), m)
  | .vmIds => pure (.vms m.vmIds, m)
  | .addKillHandler id name => Reply.ofResult doneReply <$> m.addKillHandler id name
  | .bindTask id task => Reply.ofResult doneReply <$> m.bindTask id task
  | .vmForTask task => pure (.maybeVm (m.vmForTask? task), m)
  | .summaries => pure (.summaries m.summaries, m)
  | .attach id d => Reply.ofResult .device <$> m.attachDevice id d
  | .install id d => Reply.ofResult .device <$> m.installDevice id d
  | .installPic id => Reply.ofResult .device <$> m.installPic id
  | .installPit id => Reply.ofResult .device <$> m.installPit id
  | .installDma id => Reply.ofResult .device <$> m.installDma id
  | .installCmos id => Reply.ofResult .device <$> m.installCmos id
  | .installStandard id => Reply.ofResult doneReply <$> m.installStandardDevices id
  | .addIoHandler id range device =>
    Reply.ofResult doneReply <$> m.addIoHandler id range device
  | .removeIoHandler id range => pure (.done, m.removeIoHandler id range)
  | .ioHandler id port => pure (.entry (m.ioHandler? id port), m)
  | .ioIn id port operand =>
    Reply.ofResult (fun (handled, bytes) => .input handled bytes) <$> m.ioIn id port operand
  | .ioOut id port operand => Reply.ofResult .output <$> m.ioOut id port operand
  | .setIoTrace on => pure (.done, m.setIoTrace on)
  | .ioTrace => pure (.flag m.ioTrace, m)
  | .addService id s => Reply.ofResult doneReply <$> m.addService id s
  | .removeService id number => pure (.done, m.removeService id number)
  | .serviceName id number => pure (.name (m.serviceName? id number), m)
  | .dispatchService id number => Reply.ofResult .flag <$> m.dispatchService id number
  | .raiseIrq id line => Reply.ofResult .irq <$> m.raiseIrq id line
  | .interrupt id vector => Reply.ofResult doneReply <$> m.interruptVm id vector
  | .enableInterrupts id => Reply.ofResult .delivery <$> m.enableInterrupts id
  | .disableInterrupts id => Reply.ofResult doneReply <$> m.disableInterrupts id
  | .guestIret id => Reply.ofResult .delivery <$> m.guestIret id
  | .setResumable id on => Reply.ofResult doneReply <$> m.setResumable id on
  | .withGuest id actions => Reply.ofResult .guest <$> m.withGuest id actions
  | .timerTick n => do
    let m ← m.timerTick n
    return (.tick m.clock.now, m)
  | .advanceClock n =>
    let m := m.advanceClock n
    pure (.tick m.clock.now, m)
  | .now => pure (.tick m.clock.now, m)
  | .grabIrq id irq => Reply.ofResult doneReply <$> m.grabIrq id irq
  | .releaseIrq irq => pure (.done, m.releaseIrq irq)
  | .hardwareIrq irq => Reply.ofResult .hostIrq <$> m.hardwareIrq irq
  | .controller id => Reply.ofResult .controller <$> m.controllerOf id
  | .timerChannel id n => Reply.ofResult .channel <$> m.timerChannel id n
  | .timerChannels id => Reply.ofResult .channels <$> m.timerChannels id
  | .watchTimer id n watcher => Reply.ofResult doneReply <$> m.watchTimer id n watcher
  | .dmaProgram id n => Reply.ofResult .dma <$> m.dmaProgram id n
  | .setDmaProgram id n p => Reply.ofResult doneReply <$> m.setDmaProgram id n p
  | .openModule name least => Reply.ofResult doneReply <$> m.openModule name least
  | .closeModule name => Reply.ofResult doneReply <$> m.closeModule name
  | .expungeModule name => Reply.ofResult doneReply <$> m.expungeModule name
  | .modules => pure (.modules (m.modules.entries.map fun e => (e.info, e.openCount)), m)
  | .addShellCommands batch => pure (Reply.ofShell doneReply (m.addShellCommands batch))
  | .shellCommands => pure (.commands m.shell.commands, m)
  | .runShell line => Reply.ofShell .text <$> m.runShell line

/-- Perform operations in order. -/
def run (m : Monitor) : List Op → Traced (List Reply × Monitor)
  | [] => pure ([], m)
  | op :: rest => do
    let (r, m) ← m.perform op
    let (rs, m) ← m.run rest
    return (r :: rs, m)

end Monitor
end RealModeMonitor
