import RealModeMonitor.Guest.Action
import RealModeMonitor.InterruptController.Line

/-!
# Accesses to a device, and what a device may do in turn

The monitor calls a device for each byte a guest reads or writes on its ports, on every host
tick, and once at its teardown. During a call a device may raise interrupt lines and act on its
guest; each such action has a reply.
-/

namespace RealModeMonitor

inductive DeviceKind where
  | pic
  | pit
  | dma
  | cmos
  /-- A device supplied from outside the monitor. -/
  | external
  deriving DecidableEq

/-- The module that provides devices of this kind, if the monitor does. -/
def DeviceKind.moduleName? : DeviceKind → Option String
  | pic => some "pic"
  | pit => some "pit"
  | dma => some "dma"
  | cmos => some "cmos"
  | external => none

inductive DeviceError where
  | lineOutOfRange (line : UInt8)
  | channelOutOfRange (channel : UInt8)
  /-- A command that the device knows of and does not carry out. -/
  | unsupported (device : DeviceKind) (feature : String) (value : UInt8)
  deriving DecidableEq

def DeviceError.message : DeviceError → String
  | lineOutOfRange line => "IRQ line " ++ toString line.toNat ++ " out of range"
  | channelOutOfRange channel => "channel " ++ toString channel.toNat ++ " out of range"
  | unsupported device feature value => device.moduleName?.getD "device" ++
      ": unsupported command " ++ Text.hexByte value ++ " (" ++ feature ++ ")"

namespace Device

inductive Access where
  | read (port : UInt16)
  | write (port : UInt16) (value : UInt8)
  | tick (now : UInt32)
  | teardown
  deriving DecidableEq

inductive Action where
  | raise (line : UInt8)
  | guest (a : Guest.Action)

inductive Reply where
  | raised (r : Except InjectError IrqOutcome)
  | guest (r : Guest.Reply)

end Device
end RealModeMonitor
