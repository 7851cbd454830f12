import RealModeMonitor.Config
import RealModeMonitor.VmId
import RealModeMonitor.Device.Access

/-!
# Why an operation of the monitor fails

One constructor for each cause; `MonitorError.message` holds the wording.
-/

namespace RealModeMonitor

/-- Tables of fixed size. -/
inductive Resource where
  | vmSlot
  | ioHandlerSlot
  deriving DecidableEq

def Resource.text : Resource → String
  | vmSlot => "VM slot"
  | ioHandlerSlot => "I/O handler slot"

/-- A device that an operation looked for in a session. -/
inductive SoughtDevice where
  | any
  | pic
  | pit
  | dma
  deriving DecidableEq

def SoughtDevice.text : SoughtDevice → String
  | any => "device"
  | pic => "pic"
  | pit => "pit"
  | dma => "dma"

inductive MonitorError where
  | exhausted (resource : Resource)
  /-- The ports (or the service, or the host line) are taken. -/
  | conflict (first last : UInt16)
  | noSuchVm (vm : VmId)
  | notResumable (vm : VmId)
  | noSuchDevice (vm : VmId) (sought : SoughtDevice)
  | guestMemory (e : MemoryError)
  | moduleNotFound (name : String)
  | moduleVersion (name : String) (present required : UInt32)
  | moduleBusy (name : String)
  | moduleCycle (name : String)
  | invalidConfig (e : ConfigError)
  | device (e : DeviceError)
  deriving DecidableEq

namespace MonitorError

def message : MonitorError → String
  | exhausted resource => "No free " ++ resource.text
  | conflict first last => "Range " ++ Text.hex first.toNat ++ "-" ++ Text.hex last.toNat ++
      " overlaps an existing registration"
  | noSuchVm vm => "No such VM: " ++ vm.text
  | notResumable vm => "VM " ++ vm.text ++ " is not resumable"
  | noSuchDevice vm sought => "VM " ++ vm.text ++ " has no " ++ sought.text
  | guestMemory e => "Guest memory error: " ++ e.message
  | moduleNotFound name => "Module not found: " ++ name
  | moduleVersion name present required => "Module " ++ name ++ " has version " ++
      toString present.toNat ++ ", need " ++ toString required.toNat
  | moduleBusy name => "Module " ++ name ++ " is in use"
  | moduleCycle name => "Module dependency cycle through " ++ name
  | invalidConfig e => "Invalid configuration: " ++ e.message
  | device e => "Device error: " ++ e.message

/-- The error of an operation on `vm` whose interrupt could not be taken. -/
def ofInject (vm : VmId) : InjectError → MonitorError
  | .notResumable => notResumable vm
  | .memory e => guestMemory e

end MonitorError
end RealModeMonitor
