import RealModeMonitor.Monitor.Devices

/-!
# Summaries of sessions

A summary is what the operator is told about a session at one moment. The functions here also
write summaries and controller states as the lines of the shell's reports.
-/

namespace RealModeMonitor

structure VmSummary where
  id : VmId
  vif : Bool
  resumable : Bool
  injected : Nat
  task : Option UInt32
  devices : List (DeviceId × String)
  io : List PortEntry
  services : List (UInt8 × String)

namespace VmSummary

def ofVm (vm : Vm) : VmSummary where
  id := vm.id
  vif := vm.guest.vif
  resumable := vm.guest.isResumable
  injected := vm.guest.injected
  task := vm.task
  devices := vm.present.map fun (id, d) => (id, d.name)
  io := vm.io.entries
  services := vm.services.names

/-- The name of a device, or `?` if it is gone. -/
def deviceName (s : VmSummary) (id : DeviceId) : String := (s.devices.lookup id).getD "?"

/-! ## Lines of a report -/

private def digit (b : Bool) : String := if b then "1" else "0"

private def taskField : Option UInt32 → String
  | some task => " task=" ++ toString task.toNat
  | none => ""

def headLine (s : VmSummary) : String :=
  s.id.text ++ ": vif=" ++ digit s.vif ++ " resumable=" ++ digit s.resumable ++
    " injected=" ++ toString s.injected ++ taskField s.task ++
    " devices=[" ++ ",".intercalate (s.devices.map Prod.snd) ++ "]\n"

def ioLine (s : VmSummary) (e : PortEntry) : String :=
  "  io " ++ e.range.text ++ " -> " ++ s.deviceName e.device ++ "\n"

def serviceLine (service : UInt8 × String) : String :=
  "  arpl " ++ Text.hexByte service.1 ++ " " ++ service.2 ++ "\n"

end VmSummary

/-- One chip of a session's controller. -/
def Chip.line (label : String) (c : Chip) : String :=
  "  pic " ++ label ++ ": base=" ++ Text.hexByte c.base ++ " irr=" ++ Text.hexByte c.irr ++
    " isr=" ++ Text.hexByte c.isr ++ " imr=" ++ Text.hexByte c.imr ++
    " state=" ++ c.state.name ++ "\n"

def InterruptController.lines (c : InterruptController) : String :=
  c.master.line "master" ++ c.slave.line "slave"

/-- One channel of a session's timer. -/
def ChannelView.line (c : ChannelView) (number : Nat) : String :=
  "  pit " ++ toString number ++ ": mode=" ++ toString c.mode.number ++
    " reload=" ++ toString c.reload.toNat ++ " armed=" ++ toString c.armed ++
    " interval=" ++ toString c.interval.toNat ++ " fired=" ++ toString c.expirations ++ "\n"

namespace Monitor

def summaries (m : Monitor) : List VmSummary := m.registry.vms.map .ofVm

end Monitor
end RealModeMonitor
