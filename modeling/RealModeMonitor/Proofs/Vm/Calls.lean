import RealModeMonitor.Proofs.IntervalTimer.Schedule
import RealModeMonitor.Proofs.Vm.Course

/-!
# Device calls of a session

A session reaches its devices by calls: its guest reads or writes a byte, or the host clock ticked.
`Call` has the calls as data, and `Vm.answer` is the session after one of them.

Whatever makes a session call its devices makes a list of calls, one after the other. The list is
known before the first of them, because calls move neither routes nor devices: the accesses to a
range of ports (`readBytes_eq`, `writeBytes_eq`), a tick (`tick_eq_answerAll`), and what brings the
timer up to date (`syncTimer_eq`) are such lists.
-/

namespace RealModeMonitor

/-- A call of the device at a place. -/
inductive Call where
  | read (place : DeviceId) (port : UInt16)
  | write (place : DeviceId) (port : UInt16) (value : UInt8)
  | tick (place : DeviceId)

namespace Call

def place : Call → DeviceId
  | read place _ | write place _ _ | tick place => place

/-- The call as a timer takes it. -/
def use : Call → IntervalTimer.Op
  | read _ port => .read port
  | write _ port value => .write port value
  | tick _ => .tick

/-- What the device does. -/
def ask (c : Call) (d : Device) (b : Bus) : Traced (Device × Bus) :=
  match c with
  | read _ port => Prod.snd <$> d.read port b
  | write _ port value => Prod.snd <$> d.write port value b
  | tick _ => Prod.snd <$> d.tick b

end Call

open Traced

/-! ## Routes -/

namespace HandlerTable

/-- The calls for bytes read from `port` on. -/
def reads (t : HandlerTable) (port : UInt16) : Nat → List Call
  | 0 => []
  | width + 1 => (t.get? port).toList.map (fun e => .read e.device port) ++ t.reads (port + 1) width

/-- The calls for bytes written from `port` on. -/
def writes (t : HandlerTable) (port : UInt16) : List UInt8 → List Call
  | [] => []
  | value :: values =>
    (t.get? port).toList.map (fun e => .write e.device port value) ++ t.writes (port + 1) values

end HandlerTable

namespace Vm

variable {v : Vm} {k : Clock} {c : Call} {calls : List Call} {d : Device}

/-! ## Answers -/

/-- The session after a call. -/
def answer (k : Clock) (v : Vm) : Call → Traced Vm
  | .read place port => Prod.snd <$> v.call place k (Device.read port)
  | .write place port value => Prod.snd <$> v.call place k (Device.write port value)
  | .tick place => tickDevice k v place

def answerAll (k : Clock) (v : Vm) (calls : List Call) : Traced Vm := calls.foldlM (answer k) v

theorem answerAll_cons (k : Clock) (v : Vm) (c : Call) (calls : List Call) :
    v.answerAll k (c :: calls) = v.answer k c >>= fun v => v.answerAll k calls :=
  List.foldlM_cons

theorem answerAll_append (k : Clock) (v : Vm) (calls calls' : List Call) :
    v.answerAll k (calls ++ calls') = v.answerAll k calls >>= fun v => v.answerAll k calls' :=
  List.foldlM_append

@[simp] theorem answerAll_single (k : Clock) (v : Vm) (c : Call) :
    v.answerAll k [c] = v.answer k c := by
  rw [answerAll_cons]
  exact bind_pure _

theorem answer_eq (v : Vm) (k : Clock) (c : Call) :
    v.answer k c = match v.device? c.place with
      | none => pure v
      | some d => do
        let lifted := v.setDevice c.place none
        let (d, b) ← c.ask d (lifted.bus k)
        return (lifted.settle b).setDevice c.place (some d) := by
  have hcall : ∀ {α : Type} (place : DeviceId) (f : Device → Bus → Traced (α × Device × Bus)),
      Prod.snd <$> v.call place k f = match v.device? place with
        | none => pure v
        | some d => do
          let lifted := v.setDevice place none
          let (d, b) ← Prod.snd <$> f d (lifted.bus k)
          return (lifted.settle b).setDevice place (some d) := by
    intro α place f
    unfold call
    cases v.device? place with
    | none => rfl
    | some d => simp only [map_eq_pure_bind, bind_assoc, pure_bind]
  cases c with
  | read place port => exact hcall place (Device.read port)
  | write place port value => exact hcall place (Device.write port value)
  | tick place => exact (map_eq_pure_bind Prod.snd _).symm.trans (hcall place Device.tick)

/-- A call where there is no device. -/
theorem answer_absent (h : v.device? c.place = none) : v.answer k c = pure v := by
  rw [answer_eq, h]

/-- The device is lifted out, does what it is asked, and comes back. -/
theorem answer_present (h : v.device? c.place = some d) :
    let asked := c.ask d ((v.setDevice c.place none).bus k)
    (v.answer k c).val =
        ((v.setDevice c.place none).settle asked.val.2).setDevice c.place (some asked.val.1) ∧
      (v.answer k c).events = asked.events := by
  rw [answer_eq, h]
  exact ⟨rfl, by simp⟩

theorem keeps_answer (v : Vm) (k : Clock) (c : Call) : v.Keeps (v.answer k c).val := by
  cases c with
  | read place port => exact v.keeps_call place k (Device.blank_read port)
  | write place port value => exact v.keeps_call place k (Device.blank_write port value)
  | tick place => exact v.keeps_tickDevice k place

theorem keeps_answerAll (v : Vm) (k : Clock) (calls : List Call) :
    v.Keeps (v.answerAll k calls).val := by
  induction calls generalizing v with
  | nil => exact .refl v
  | cons c calls ih => exact (v.keeps_answer k c).trans (ih _)

theorem io_answerAll (v : Vm) (k : Clock) (calls : List Call) :
    (v.answerAll k calls).val.io = v.io := by
  have hone : ∀ (v : Vm) (c : Call), (v.answer k c).val.io = v.io := by
    intro v c
    cases c <;> exact congrArg Prod.fst (v.fittings_call _ k _)
  induction calls generalizing v with
  | nil => rfl
  | cons c calls ih => exact (ih _).trans (hone v c)

/-! ## What calls devices -/

theorem readByte_eq (v : Vm) (k : Clock) (port : UInt16) :
    Prod.snd <$> v.readByte k port =
      v.answerAll k ((v.io.get? port).toList.map fun e => .read e.device port) := by
  unfold readByte
  cases v.io.get? port with
  | none => rfl
  | some e =>
    simp only [Option.toList_some, List.map_cons, List.map_nil, answerAll_single, answer,
      map_eq_pure_bind, bind_assoc, pure_bind]

theorem writeByte_eq (v : Vm) (k : Clock) (port : UInt16) (value : UInt8) :
    Prod.snd <$> v.writeByte k port value =
      v.answerAll k ((v.io.get? port).toList.map fun e => .write e.device port value) := by
  unfold writeByte
  cases v.io.get? port with
  | none => rfl
  | some e =>
    simp only [Option.toList_some, List.map_cons, List.map_nil, answerAll_single, answer,
      map_eq_pure_bind, bind_assoc, pure_bind]

/-- **Reading** calls the devices that the ports lead to, port after port. -/
theorem readBytes_eq (v : Vm) (k : Clock) (port : UInt16) (width : Nat) :
    Prod.snd <$> v.readBytes k port width = v.answerAll k (v.io.reads port width) := by
  induction width generalizing v port with
  | zero => rfl
  | succ width ih =>
    have hsplit : Prod.snd <$> v.readBytes k port (width + 1) =
        (Prod.snd <$> v.readByte k port) >>=
          fun v => Prod.snd <$> v.readBytes k (port + 1) width := by
      simp only [readBytes, map_eq_pure_bind, bind_assoc, pure_bind]
    rw [hsplit, readByte_eq, HandlerTable.reads, answerAll_append]
    refine bind_congr_val ?_
    rw [ih, io_answerAll]

/-- **Writing** calls the devices that the ports lead to, port after port. -/
theorem writeBytes_eq (v : Vm) (k : Clock) (port : UInt16) (values : List UInt8) :
    Prod.snd <$> v.writeBytes k port values = v.answerAll k (v.io.writes port values) := by
  induction values generalizing v port with
  | nil => rfl
  | cons value values ih =>
    have hsplit : Prod.snd <$> v.writeBytes k port (value :: values) =
        (Prod.snd <$> v.writeByte k port value) >>=
          fun v => Prod.snd <$> v.writeBytes k (port + 1) values := by
      simp only [writeBytes, map_eq_pure_bind, bind_assoc, pure_bind]
    rw [hsplit, writeByte_eq, HandlerTable.writes, answerAll_append]
    refine bind_congr_val ?_
    rw [ih, io_answerAll]

/-- The calls of a tick. -/
def ticks (v : Vm) : List Call := v.deviceIds.map .tick

/-- The call that brings the timer up to date. -/
def syncs (v : Vm) : List Call := v.timer?.toList.map fun found => .tick found.1

theorem tick_eq_answerAll (v : Vm) (k : Clock) : v.tick k = v.answerAll k v.ticks := by
  rw [answerAll, ticks, List.foldlM_map]
  rfl

theorem syncTimer_eq (v : Vm) (k : Clock) : v.syncTimer k = v.answerAll k v.syncs := by
  unfold syncTimer syncs
  cases v.timer? with
  | none => rfl
  | some found => exact (v.answerAll_single k (.tick found.1)).symm

end Vm
end RealModeMonitor
