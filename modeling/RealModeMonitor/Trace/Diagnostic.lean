import RealModeMonitor.Monitor.Error

/-!
# Diagnostics

What the monitor tells its operator as it works. A diagnostic has a severity, a message and named
fields; `Diagnostic.text` puts them on one line. Diagnostics never influence anything.
-/

namespace RealModeMonitor

/-- From the gravest to the most detailed. -/
inductive Severity where
  | warn
  | info
  | debug
  | trace
  deriving DecidableEq

namespace Severity

def text : Severity → String
  | warn => "WARN"
  | info => "INFO"
  | debug => "DEBUG"
  | trace => "TRACE"

def rank : Severity → Nat
  | warn => 0
  | info => 1
  | debug => 2
  | trace => 3

end Severity

inductive Diagnostic where
  -- Devices
  | deviceComplaint (vm : VmId) (e : DeviceError)
  | irqWithoutController (vm : VmId) (line : UInt8)
  | eoiForLowerPriority (level retired : Fin 8)
  | irqInService (vm : VmId) (line : UInt8)
  | deliveryFailed (vm : VmId) (line : UInt8) (e : InjectError)
  | irqDelivered (vm : VmId) (line vector : UInt8)
  | controllerReady (vm : VmId) (port : UInt16) (base icw4 : UInt8)
  | pendingNotDelivered (vm : VmId) (e : InjectError)
  | interruptInjected (vector : UInt8) (target : FarPointer)
  | channelProgrammed (vm : VmId) (channel : Fin 3) (mode : Nat)
  | channelArmed (vm : VmId) (channel : Fin 3) (period interval : UInt32)
  | timerIrqDeferred (vm : VmId) (e : InjectError)
  -- Modules
  | moduleLoaded (name : String) (version : UInt32)
  | moduleNotOpen (name : String)
  | moduleExpunged (name : String)
  | closeFailed (name : String) (e : MonitorError)
  -- Sessions
  | monitorStarting (config : Config)
  | vmCreated (vm : VmId)
  | killIgnored (vm : VmId)
  | guestFaulted (vm : VmId)
  | vmKilled (vm : VmId)
  | deviceTornDown (vm : VmId) (device : String)
  | killHandlerRuns (vm : VmId) (handler : String)
  | deviceAttached (vm : VmId) (device : DeviceId)
  | deviceInstalled (vm : VmId) (device : String)
  | installFailed (vm : VmId) (device : String) (e : MonitorError)
  | hostIrqGrabbed (vm : VmId) (irq : UInt8)
  -- Port accesses
  | portRead (vm : VmId) (port : UInt16) (bytes : List UInt8) (handled : Bool)
  | portWrite (vm : VmId) (port : UInt16) (bytes : List UInt8) (handled : Bool)

namespace Diagnostic

def severity : Diagnostic → Severity
  | deviceComplaint .. | pendingNotDelivered .. | moduleNotOpen .. | closeFailed ..
  | guestFaulted .. | installFailed .. => .warn
  | monitorStarting .. | vmCreated .. | vmKilled .. => .info
  | irqWithoutController .. | eoiForLowerPriority .. | irqInService .. | irqDelivered ..
  | interruptInjected .. | channelProgrammed .. => .trace
  | deliveryFailed .. | controllerReady .. | channelArmed .. | timerIrqDeferred ..
  | moduleLoaded .. | moduleExpunged .. | killIgnored .. | deviceTornDown ..
  | killHandlerRuns .. | deviceAttached .. | deviceInstalled .. | hostIrqGrabbed ..
  | portRead .. | portWrite .. => .debug

def message : Diagnostic → String
  | deviceComplaint _ e => e.message
  | irqWithoutController .. => "IRQ raised without a PIC"
  | eoiForLowerPriority .. => "specific EOI for a lower priority level"
  | irqInService .. => "IRQ dropped, line in service"
  | deliveryFailed _ _ e => "IRQ delivery failed, request stays latched: " ++ e.message
  | irqDelivered .. => "IRQ delivered"
  | controllerReady .. => "PIC initialised"
  | pendingNotDelivered _ e => "pending IRQ not delivered: " ++ e.message
  | interruptInjected .. => "interrupt injected"
  | channelProgrammed .. => "PIT channel programmed"
  | channelArmed .. => "PIT channel armed"
  | timerIrqDeferred _ e => "timer IRQ deferred: " ++ e.message
  | moduleLoaded .. => "module loaded"
  | moduleNotOpen _ => "close of a module that is not open"
  | moduleExpunged _ => "module expunged"
  | closeFailed _ e => "close failed: " ++ e.message
  | monitorStarting _ => "monitor starting"
  | vmCreated _ => "VM created"
  | killIgnored _ => "kill of a dead VM ignored"
  | guestFaulted _ => "guest state outside guest RAM, killing VM"
  | vmKilled _ => "VM killed"
  | deviceTornDown .. => "device torn down"
  | killHandlerRuns .. => "running kill handler"
  | deviceAttached .. => "device attached"
  | deviceInstalled .. => "device installed"
  | installFailed _ _ e => "install failed: " ++ e.message
  | hostIrqGrabbed .. => "host IRQ grabbed"
  | portRead .. => "IN"
  | portWrite .. => "OUT"

private def vmField (vm : VmId) : String × String := ("vm", vm.text)

private def listed (bytes : List UInt8) : String :=
  "[" ++ ", ".intercalate (bytes.map fun b => toString b.toNat) ++ "]"

private def accessFields (vm : VmId) (port : UInt16) (bytes : List UInt8) (handled : Bool) :
    List (String × String) :=
  [vmField vm, ("port", Text.hex port.toNat), ("data", listed bytes), ("handled", toString handled)]

/-- Names and values, in the order they are told. -/
def fields : Diagnostic → List (String × String)
  | deviceComplaint vm _ | pendingNotDelivered vm _ | timerIrqDeferred vm _ | vmCreated vm
  | killIgnored vm | guestFaulted vm | vmKilled vm => [vmField vm]
  | irqWithoutController vm line | irqInService vm line | deliveryFailed vm line _ =>
    [vmField vm, ("line", toString line.toNat)]
  | eoiForLowerPriority level retired => [("level", toString level), ("line", toString retired)]
  | irqDelivered vm line vector =>
    [vmField vm, ("line", toString line.toNat), ("vector", Text.hexByte vector)]
  | controllerReady vm port base icw4 =>
    [vmField vm, ("port", Text.hex port.toNat), ("base", Text.hexByte base),
      ("icw4", Text.hexByte icw4)]
  | interruptInjected vector target =>
    [("vector", Text.hexByte vector),
      ("target", Text.hexDigits 4 target.segment.toNat ++ ":" ++
        Text.hexDigits 4 target.offset.toNat)]
  | channelProgrammed vm channel mode =>
    [vmField vm, ("channel", toString channel), ("mode", toString mode)]
  | channelArmed vm channel period interval =>
    [vmField vm, ("channel", toString channel), ("reload", toString period.toNat),
      ("interval_ticks", toString interval.toNat)]
  | moduleLoaded name version => [("module", name), ("version", toString version.toNat)]
  | moduleNotOpen name | moduleExpunged name | closeFailed name _ => [("module", name)]
  | monitorStarting config =>
    [("max_vms", toString config.maxVms), ("tick_hz", toString config.tickHz.toNat),
      ("memory", toString config.guestMemory)]
  | deviceTornDown vm device | deviceInstalled vm device | installFailed vm device _ =>
    [vmField vm, ("device", device)]
  | killHandlerRuns vm handler => [vmField vm, ("handler", handler)]
  | deviceAttached vm device => [vmField vm, ("device", toString device)]
  | hostIrqGrabbed vm irq => [vmField vm, ("irq", toString irq.toNat)]
  | portRead vm port bytes handled | portWrite vm port bytes handled =>
    accessFields vm port bytes handled

/-- Severity, message, and `name=value` for each field. -/
def text (d : Diagnostic) : String :=
  " ".intercalate
    (d.severity.text :: d.message :: d.fields.map fun (name, value) => name ++ "=" ++ value)

end Diagnostic
end RealModeMonitor
