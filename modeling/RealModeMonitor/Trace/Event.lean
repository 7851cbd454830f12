import RealModeMonitor.VmId
import RealModeMonitor.Device.Access

/-!
# Calls out of the monitor

Each call of something that a collaborator supplied is an event: a device of its own, a handler of
a monitor call, a timer watch, a kill handler. Events are recorded when the call is over, with
what it was answered.
-/

namespace RealModeMonitor

inductive Event where
  | device (name : String) (vm : VmId) (access : Device.Access) (replies : List Device.Reply)
  /-- A watched timer channel expired, and its watcher was told. -/
  | timerExpired (vm : VmId) (channel : Fin 3) (watcher : String)
  /-- The handler called `name` ran for the `count`-th time. -/
  | serviceCalled (vm : VmId) (name : String) (count : Nat) (replies : List Guest.Reply)
  | killHandler (name : String) (vm : VmId)

/-- The session that a call was made for. -/
def Event.vm : Event → VmId
  | device _ vm _ _ => vm
  | timerExpired vm _ _ => vm
  | serviceCalled vm _ _ _ => vm
  | killHandler _ vm => vm

end RealModeMonitor
