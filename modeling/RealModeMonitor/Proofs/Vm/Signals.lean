import RealModeMonitor.Proofs.IntervalTimer.Shots
import RealModeMonitor.Proofs.Vm.Calls
import RealModeMonitor.Proofs.Vm.Notes
import RealModeMonitor.Proofs.Vm.Tick

/-!
# What timers signal to their session

A timer that is called goes back to its place, the timer's line is raised once for each expiration
of channel 0, and the watchers are told (`answer_timer`). A call of any other device leaves all
timers alone and tells no watcher (`answer_other`).

**Chronicles.** Beside the calls of a session runs a list of marks (`Vm.chronicle`): one for each
unit by which the count of a channel's expirations grows, with the watcher that the channel has
then, and one for each reload that is complete. For one call, and from it for any number of calls,

* the watchers are told what the marks say, in order (`alarms_answer`),
* the count of each channel grows by its marks, at whatever place it is (`expirations_answer`),
* expirations that are not periodic are paid for by reloads (`shots_answer`).
-/

namespace RealModeMonitor

/-! ## Alarms -/

/-- Whether a watcher was told of an expiration. -/
def Event.isAlarm : Event → Bool
  | timerExpired .. => true
  | device .. | serviceCalled .. | killHandler .. => false

namespace Traced

variable {α β : Type} {b : VmId} {x : Traced α}

/-- What the watchers of session `b` are told. -/
def alarms (b : VmId) (x : Traced α) : List Event :=
  x.events.filter fun e => e.isAlarm && decide (e.vm = b)

@[simp] theorem alarms_pure (a : α) : (pure a : Traced α).alarms b = [] := rfl

@[simp] theorem alarms_bind (x : Traced α) (f : α → Traced β) :
    (x >>= f).alarms b = x.alarms b ++ (f x.val).alarms b := by
  simp [alarms]

@[simp] theorem alarms_map (f : α → β) (x : Traced α) : (f <$> x).alarms b = x.alarms b := by
  simp [alarms]

theorem alarms_of_events (h : x.events = []) : x.alarms b = [] := by
  rw [alarms, h]
  rfl

/-- Remarks are no calls. -/
theorem Only.no_events (hx : x.Only Note.IsRemark) : x.events = [] := by
  rw [events, List.filterMap_eq_nil_iff]
  intro n hn
  cases n with
  | diagnostic d => rfl
  | event e => cases hx _ (Array.mem_toList_iff.1 hn)

end Traced

open Traced

theorem Bus.events_act (b : Bus) (a : Device.Action) : (b.act a).events = [] := by
  cases a with
  | raise line => simp [act, b.events_raise]
  | guest a => simp [act, (b.guest.notes_act a).no_events]

theorem Bus.events_run (b : Bus) (as : List Device.Action) : (b.run as).events = [] := by
  induction as generalizing b with
  | nil => rfl
  | cons a as ih => simp [run, b.events_act, ih]

theorem InterruptController.events_writeAndDeliver (c : InterruptController) (vm : VmId)
    (port : UInt16) (value : UInt8) (g : Guest) :
    (c.writeAndDeliver vm port value g).events = [] := by
  unfold writeAndDeliver
  simp only [events_bind, (c.notes_writePort port value).no_events, events_deliver]
  split <;> rfl

namespace Device

variable {d d' : Device} {b : Bus} {id : VmId}

theorem alarms_access (d : ExternalDevice) (a : Access) (b : Bus) (id : VmId) :
    (d.access a b).alarms id = [] := by
  unfold ExternalDevice.access
  simp only [alarms_bind, alarms_of_events (b.events_run _)]
  rfl

theorem alarms_read (h : d.timer? = none) (port : UInt16) (b : Bus) (id : VmId) :
    (d.read port b).alarms id = [] := by
  cases d with
  | pit t => cases h
  | external d => simp [read, alarms_access]
  | pic | dma | cmos => rfl

theorem alarms_write (h : d.timer? = none) (port : UInt16) (value : UInt8) (b : Bus) (id : VmId) :
    (d.write port value b).alarms id = [] := by
  cases d with
  | pit t => cases h
  | external d => simp [write, alarms_access]
  | pic c => simp [write, alarms_of_events (c.events_writeAndDeliver b.vm port value b.guest)]
  | cmos r => rfl
  | dma d =>
    simp only [write]
    split <;> rfl

theorem alarms_tick (h : d.timer? = none) (b : Bus) (id : VmId) : (d.tick b).alarms id = [] := by
  cases d with
  | pit t => cases h
  | external d => simp [tick, alarms_access]
  | pic | dma | cmos => rfl

theorem timer?_of_blank (h : d'.blank = d.blank) (hd : d.timer? = none) : d'.timer? = none := by
  cases d with
  | pit t => cases hd
  | pic | dma | cmos | external => cases d' <;> first | rfl | cases h

end Device

/-! ## What a device is asked -/

namespace IntervalTimer

variable (t : IntervalTimer) (b : Bus)

theorem readPort_eq (port : UInt16) :
    (t.readPort port b).val.2 = (t.next b.clock (.read port),
        pulse^[if (dataPort? port).isSome then t.due b.clock.now else 0] b) ∧
      (t.readPort port b).events =
        if (dataPort? port).isSome then t.told b.vm b.clock.now else [] := by
  have hnext : (t.readPort port b).val.2.1 = t.next b.clock (.read port) :=
    ext_channel fun i => by rw [channel_readPort, channel_next, Channel.next]
  refine ⟨Prod.ext hnext ?_, ?_⟩
  all_goals
    unfold readPort
    cases dataPort? port with
    | none => rfl
    | some i => simp [val_runExpiry, events_runExpiry]

theorem writePort_eq (port : UInt16) (value : UInt8) :
    (t.writePort port value b).val = t.next b.clock (.write port value) ∧
      (t.writePort port value b).events = [] :=
  ⟨ext_channel fun i => by rw [channel_writePort, channel_next, Channel.next],
    (t.notes_writePort port value b).no_events⟩

/-- All that is told are alarms. -/
theorem filter_told (vm : VmId) (now : UInt32) :
    (t.told vm now).filter (fun e => e.isAlarm && decide (e.vm = vm)) = t.told vm now := by
  refine List.filter_eq_self.2 fun e he => ?_
  obtain ⟨i, -, he⟩ := List.mem_flatMap.1 he
  unfold expiries at he
  cases hwatcher : (t.channel i).watcher with
  | none => simp [hwatcher] at he
  | some watcher =>
    rw [hwatcher] at he
    obtain rfl := List.eq_of_mem_replicate he
    simp [Event.isAlarm, Event.vm]

theorem runExpiry_eq :
    (t.runExpiry b).val = (t.next b.clock .tick, pulse^[t.due b.clock.now] b) ∧
      (t.runExpiry b).events = t.told b.vm b.clock.now := by
  have hnext : t.next b.clock .tick = t.expired b.clock.now :=
    ext_channel fun i => by rw [channel_next, channel_expired, Channel.next]
  exact ⟨hnext ▸ t.val_runExpiry b, t.events_runExpiry b⟩

end IntervalTimer

namespace Call

variable {c : Call} {d : Device} {b : Bus}

/-- **A timer that is asked** raises the timer's line and tells its watchers as often as it expires,
if it is asked for an evaluation. -/
theorem ask_timer (c : Call) (t : IntervalTimer) (b : Bus) :
    (c.ask (.pit t) b).val = (.pit (t.next b.clock c.use),
        IntervalTimer.pulse^[if c.use.evaluates then t.due b.clock.now else 0] b) ∧
      (c.ask (.pit t) b).events = if c.use.evaluates then t.told b.vm b.clock.now else [] := by
  cases c with
  | read place port =>
    obtain ⟨hval, hevents⟩ := t.readPort_eq b port
    simp only [ask, use, Device.read, IntervalTimer.Op.evaluates, val_map, events_map, val_bind,
      val_pure, events_bind, events_pure, List.append_nil, hval, hevents]
    exact ⟨rfl, rfl⟩
  | write place port value =>
    obtain ⟨hval, hevents⟩ := t.writePort_eq b port value
    simp [ask, use, Device.write, IntervalTimer.Op.evaluates, hval, hevents]
  | tick place =>
    obtain ⟨hval, hevents⟩ := t.runExpiry_eq b
    simp [ask, use, Device.tick, IntervalTimer.Op.evaluates, hval, hevents]

/-- Nobody else alarms. -/
theorem ask_other (c : Call) (h : d.timer? = none) (b : Bus) :
    (c.ask d b).val.1.timer? = none ∧ ∀ id, (c.ask d b).alarms id = [] := by
  cases c with
  | read place port =>
    exact ⟨Device.timer?_of_blank (d.blank_read port b) h, fun id => by
      rw [ask, alarms_map, Device.alarms_read h]⟩
  | write place port value =>
    exact ⟨Device.timer?_of_blank (d.blank_write port value b) h, fun id => by
      rw [ask, alarms_map, Device.alarms_write h]⟩
  | tick place =>
    exact ⟨Device.timer?_of_blank (d.blank_tick b) h, fun id => by
      rw [ask, alarms_map, Device.alarms_tick h]⟩

end Call

/-! ## What a session answers -/

namespace Vm

variable {v : Vm} {k : Clock} {c : Call} {t : IntervalTimer} {id place : DeviceId} {i : Fin 3}

theorem device?_of_timerAt? (h : v.timerAt? id = some t) : v.device? id = some (.pit t) := by
  obtain ⟨d, hd, ht⟩ := Option.bind_eq_some_iff.1 h
  cases d <;> cases ht
  exact hd

theorem timerAt?_setDevice (v : Vm) (id other : DeviceId) (o : Option Device) :
    (v.setDevice id o).timerAt? other =
      if id = other ∧ id < v.devices.length then o.bind Device.timer? else v.timerAt? other := by
  rw [timerAt?, device?_setDevice, timerAt?]
  split <;> rfl

theorem timerAt?_settle (v : Vm) (b : Bus) (id : DeviceId) :
    (v.settle b).timerAt? id = v.timerAt? id := by
  unfold settle
  dsimp only
  split
  next place c₀ c hcontroller _ =>
    have hfound : v.controller? = some (place, c₀) := hcontroller
    exact timerAt?_exchange hfound c b.guest id
  next => rfl

/-- **A timer that is called** is put back and raises the timer's line, once for each expiration of
channel 0, and tells its watchers. -/
theorem answer_timer (h : v.timerAt? c.place = some t) (k : Clock) :
    (v.answer k c).val = pulse^[if c.use.evaluates then t.due k.now else 0]
        (v.setDevice c.place (some (.pit (t.next k c.use)))) ∧
      (v.answer k c).events = if c.use.evaluates then t.told v.id k.now else [] := by
  have hplace := device?_of_timerAt? h
  obtain ⟨hval, hevents⟩ := answer_present (k := k) hplace
  obtain ⟨hasked, htold⟩ := c.ask_timer t ((v.setDevice c.place none).bus k)
  refine ⟨?_, hevents.trans htold⟩
  rw [hval, hasked]
  dsimp only
  -- Raising a line moves the controller alone, so the timer may as well be put back before.
  rw [settle_pulses, pulses_setDevice (device?_setDevice_self hplace none) rfl, setDevice_setDevice]
  rfl

/-- A call of anything else leaves the timers alone. -/
theorem answer_other (h : v.timerAt? c.place = none) (k : Clock) :
    (∀ id, (v.answer k c).val.timerAt? id = v.timerAt? id) ∧ (v.answer k c).alarms v.id = [] := by
  cases hplace : v.device? c.place with
  | none =>
    rw [answer_absent hplace]
    exact ⟨fun _ => rfl, rfl⟩
  | some d =>
    have hd : d.timer? = none := by rwa [timerAt?, hplace] at h
    obtain ⟨hval, hevents⟩ := answer_present (k := k) hplace
    obtain ⟨hasked, hsilent⟩ := c.ask_other hd ((v.setDevice c.place none).bus k)
    refine ⟨fun id => ?_, by rw [alarms, hevents]; exact hsilent v.id⟩
    have hlifted : (v.setDevice c.place none).timerAt? id = v.timerAt? id := by
      rw [timerAt?_setDevice]
      split
      next hid => rw [← hid.1, h]; rfl
      next => rfl
    rw [hval, timerAt?_setDevice, timerAt?_settle, hlifted]
    split
    next hid => rw [← hid.1, h]; exact hasked
    next => rfl

theorem timerAt?_answer (v : Vm) (k : Clock) (c : Call) (id : DeviceId) :
    (v.answer k c).val.timerAt? id =
      (v.timerAt? id).map fun t => if c.place = id then t.next k c.use else t := by
  by_cases hid : c.place = id
  · subst hid
    simp only [if_true]
    cases h : v.timerAt? c.place with
    | none => rw [(answer_other h k).1, h]; rfl
    | some t =>
      have hlt := lt_of_device? (device?_of_timerAt? h)
      rw [(answer_timer h k).1, timerAt?_pulses, timerAt?_setDevice, if_pos ⟨rfl, hlt⟩]
      rfl
  · simp only [if_neg hid, Option.map_id']
    cases h : v.timerAt? c.place with
    | none => exact (answer_other h k).1 id
    | some t =>
      rw [(answer_timer h k).1, timerAt?_pulses, timerAt?_setDevice, if_neg fun heq => hid heq.1]

/-! ## Channels of a session -/

def channel? (v : Vm) (place : DeviceId) (i : Fin 3) : Option Channel :=
  (v.timerAt? place).map fun t => t.channel i

theorem channel?_answer (v : Vm) (k : Clock) (c : Call) (place : DeviceId) (i : Fin 3) :
    (v.answer k c).val.channel? place i =
      (v.channel? place i).map fun ch => if c.place = place then ch.next i k c.use else ch := by
  rw [channel?, timerAt?_answer, channel?, Option.map_map, Option.map_map]
  refine Option.map_congr fun t _ => ?_
  dsimp only [Function.comp]
  split
  · exact t.channel_next k c.use i
  · rfl

/-- How often a channel has expired; never if it is not there. -/
def expirations (v : Vm) (place : DeviceId) (i : Fin 3) : Nat :=
  ((v.channel? place i).map Channel.expirations).getD 0

/-- How often a channel can fire if it is not periodic. One that is not there yet may come with a
shot. -/
def shots (v : Vm) (place : DeviceId) (i : Fin 3) : Nat :=
  ((v.channel? place i).map Channel.shots).getD 1

end Vm

/-! ## Marks -/

/-- What happened to a channel. -/
inductive Mark where
  /-- It expired once, while it had this watcher. -/
  | expired (place : DeviceId) (channel : Fin 3) (watcher : Option String) (periodic : Bool)
  /-- A reload of it was complete. -/
  | armed (place : DeviceId) (channel : Fin 3)
  deriving DecidableEq

namespace Mark

def isAt (place : DeviceId) (i : Fin 3) : Mark → Bool
  | expired place' j _ _ | armed place' j => place' = place && j = i

def isExpired : Mark → Bool
  | expired .. => true
  | armed .. => false

/-- Whether channel `i` expired. -/
def expires (place : DeviceId) (i : Fin 3) (m : Mark) : Bool := m.isAt place i && m.isExpired

/-- Whether channel `i` expired and was not periodic. -/
def shoots (place : DeviceId) (i : Fin 3) (m : Mark) : Bool :=
  m.isAt place i && match m with
    | expired _ _ _ periodic => !periodic
    | armed .. => false

/-- Whether a reload of channel `i` was complete. -/
def arms (place : DeviceId) (i : Fin 3) (m : Mark) : Bool := m.isAt place i && !m.isExpired

variable {place : DeviceId} {i : Fin 3} {m : Mark}

theorem isAt_of_expires (h : m.expires place i = true) : m.isAt place i = true :=
  (Bool.and_eq_true_iff.1 h).1

theorem isAt_of_shoots (h : m.shoots place i = true) : m.isAt place i = true :=
  (Bool.and_eq_true_iff.1 h).1

theorem isAt_of_arms (h : m.arms place i = true) : m.isAt place i = true :=
  (Bool.and_eq_true_iff.1 h).1

/-- What the watcher in session `vm` is to be told. -/
def alarm? (vm : VmId) : Mark → Option Event
  | expired _ i (some watcher) _ => some (.timerExpired vm i watcher)
  | expired _ _ none _ | armed _ _ => none

end Mark

namespace Vm

variable {v : Vm} {k : Clock} {c : Call} {t : IntervalTimer} {place : DeviceId} {i j : Fin 3}
  {ch : Channel} {p : Mark → Bool}

/-- What happens to channel `i` of a timer that is called: as much as its count of expirations
grows by, and perhaps the end of a reload. -/
def marksOf (k : Clock) (v : Vm) (c : Call) (i : Fin 3) : List Mark :=
  match v.channel? c.place i with
  | none => []
  | some ch =>
    List.replicate ((v.answer k c).val.expirations c.place i - v.expirations c.place i)
        (.expired c.place i ch.watcher ch.mode.isPeriodic) ++
      if ch.isArmedBy i k c.use then [.armed c.place i] else []

/-- What happens to its channels. -/
def marks (k : Clock) (v : Vm) (c : Call) : List Mark := (List.finRange 3).flatMap (v.marksOf k c)

/-- What happens during calls, one after the other. -/
def chronicle (k : Clock) : Vm → List Call → List Mark
  | _, [] => []
  | v, c :: calls => v.marks k c ++ chronicle k (v.answer k c).val calls

theorem expirations_eq (h : v.channel? place i = some ch) :
    v.expirations place i = ch.expirations := by
  rw [expirations, h]
  rfl

/-- The count grows by what the channel fires. -/
theorem growth_eq (h : v.channel? c.place i = some ch) (k : Clock) :
    (v.answer k c).val.expirations c.place i = v.expirations c.place i + ch.firingsBy k c.use := by
  have hnext : (v.answer k c).val.channel? c.place i = some (ch.next i k c.use) := by
    rw [channel?_answer, h, Option.map_some, if_pos rfl]
  rw [expirations_eq hnext, expirations_eq h]
  exact IntervalTimer.expirations_next_eq ch c.use

theorem marksOf_none (h : v.channel? c.place i = none) (k : Clock) : v.marksOf k c i = [] := by
  rw [marksOf, h]

theorem marksOf_some (h : v.channel? c.place i = some ch) (k : Clock) :
    v.marksOf k c i =
      List.replicate (ch.firingsBy k c.use) (.expired c.place i ch.watcher ch.mode.isPeriodic) ++
        if ch.isArmedBy i k c.use then [.armed c.place i] else [] := by
  simp only [marksOf, h, growth_eq h, Nat.add_sub_cancel_left]

theorem isAt_of_mem {m : Mark} (h : m ∈ v.marksOf k c i) (place : DeviceId) (j : Fin 3) :
    m.isAt place j = (c.place = place && i = j) := by
  cases hch : v.channel? c.place i with
  | none =>
    rw [marksOf_none hch] at h
    cases h
  | some ch =>
    rw [marksOf_some hch, List.mem_append] at h
    rcases h with h | h
    · rw [List.eq_of_mem_replicate h]
      rfl
    · split at h
      · rw [List.mem_singleton.1 h]
        rfl
      · cases h

/-- What is counted of one channel is found among its own marks. -/
theorem countP_marks (hp : ∀ m, p m = true → m.isAt place i = true) (v : Vm) (k : Clock)
    (c : Call) :
    (v.marks k c).countP p = if c.place = place then (v.marksOf k c i).countP p else 0 := by
  have hother : ∀ j, ¬(c.place = place ∧ j = i) → (v.marksOf k c j).countP p = 0 := by
    intro j hj
    refine List.countP_eq_zero.2 fun m hm hpm => hj ?_
    simpa [isAt_of_mem hm] using hp m hpm
  have hthree : List.finRange 3 = [0, 1, 2] := by decide
  have hcases : ∀ i : Fin 3, i = 0 ∨ i = 1 ∨ i = 2 := by decide
  -- The marks of a call are those of three channels, and at most one of these is counted.
  rw [marks, List.countP_flatMap, hthree]
  simp only [List.map_cons, List.map_nil, List.sum_cons, List.sum_nil, Function.comp]
  split
  next hplace =>
    have hchannel : ∀ j, j ≠ i → (v.marksOf k c j).countP p = 0 :=
      fun j hj => hother j fun h => hj h.2
    obtain rfl | rfl | rfl := hcases i <;> simp [hchannel]
  next hplace => simp [hother _ fun h => hplace h.1]

theorem countP_expires (h : v.channel? c.place i = some ch) (k : Clock) :
    (v.marks k c).countP (Mark.expires c.place i) = ch.firingsBy k c.use := by
  rw [countP_marks fun m => Mark.isAt_of_expires, if_pos rfl, marksOf_some h]
  split <;> simp [Mark.expires, Mark.isAt, Mark.isExpired, List.countP_replicate]

theorem countP_shoots (h : v.channel? c.place i = some ch) (k : Clock) :
    (v.marks k c).countP (Mark.shoots c.place i) =
      if ch.mode.isPeriodic then 0 else ch.firingsBy k c.use := by
  rw [countP_marks fun m => Mark.isAt_of_shoots, if_pos rfl, marksOf_some h]
  cases ch.mode.isPeriodic <;> split <;> simp [Mark.shoots, Mark.isAt, List.countP_replicate]

theorem countP_arms (h : v.channel? c.place i = some ch) (k : Clock) :
    (v.marks k c).countP (Mark.arms c.place i) = if ch.isArmedBy i k c.use then 1 else 0 := by
  rw [countP_marks fun m => Mark.isAt_of_arms, if_pos rfl, marksOf_some h]
  split <;> simp [Mark.arms, Mark.isAt, Mark.isExpired, List.countP_replicate]

/-- A call is of the timer that channel `i` belongs to, or it does nothing to the channel. -/
theorem called_or_spared (v : Vm) (k : Clock) (c : Call) (place : DeviceId) (i : Fin 3) :
    (∃ ch, c.place = place ∧ v.channel? c.place i = some ch) ∨
      (v.answer k c).val.channel? place i = v.channel? place i ∧
        ∀ p : Mark → Bool, (∀ m, p m = true → m.isAt place i = true) →
          (v.marks k c).countP p = 0 := by
  by_cases hplace : c.place = place
  · subst hplace
    cases h : v.channel? c.place i with
    | none =>
      refine .inr ⟨by rw [channel?_answer, h]; rfl, fun p hp => ?_⟩
      rw [countP_marks hp, marksOf_none h, List.countP_nil, ite_self]
    | some ch => exact .inl ⟨ch, rfl, rfl⟩
  · refine .inr ⟨?_, fun p hp => by rw [countP_marks hp, if_neg hplace]⟩
    rw [channel?_answer]
    simp [hplace]

/-- **The count of expirations** grows with the marks. -/
theorem expirations_answer (v : Vm) (k : Clock) (c : Call) (place : DeviceId) (i : Fin 3) :
    (v.answer k c).val.expirations place i =
      v.expirations place i + (v.marks k c).countP (Mark.expires place i) := by
  obtain ⟨ch, rfl, hch⟩ | ⟨hsame, hnone⟩ := called_or_spared v k c place i
  · rw [growth_eq hch, countP_expires hch]
  · rw [expirations, hsame, hnone _ fun m => Mark.isAt_of_expires]
    rfl

/-- **Shots are paid for** by what was there and by the reloads. -/
theorem shots_answer (v : Vm) (k : Clock) (c : Call) (place : DeviceId) (i : Fin 3) :
    (v.marks k c).countP (Mark.shoots place i) + (v.answer k c).val.shots place i ≤
      v.shots place i + (v.marks k c).countP (Mark.arms place i) := by
  obtain ⟨ch, rfl, hch⟩ | ⟨hsame, hnone⟩ := called_or_spared v k c place i
  · rw [countP_shoots hch, countP_arms hch, shots, channel?_answer, hch, shots, hch,
      Option.map_some, if_pos rfl]
    exact ch.shots_next i k c.use
  · rw [shots, hsame, hnone _ fun m => Mark.isAt_of_shoots, hnone _ fun m => Mark.isAt_of_arms,
      Nat.zero_add]
    exact Nat.le_refl _

/-- **The timer's line** is raised once for each expiration of channel 0. -/
theorem val_answer_timer (h : v.timerAt? c.place = some t) (k : Clock) :
    (v.answer k c).val = pulse^[(v.marks k c).countP (Mark.expires c.place 0)]
      (v.setDevice c.place (some (.pit (t.next k c.use)))) := by
  have hchannel : v.channel? c.place 0 = some (t.channel 0) := by
    rw [channel?, h]
    rfl
  rw [(answer_timer h k).1, countP_expires hchannel]
  rfl

/-- Nothing expires that is not evaluated. -/
theorem not_isExpired_of_mem (h : c.use.evaluates = false) {m : Mark} (hm : m ∈ v.marks k c) :
    m.isExpired = false := by
  obtain ⟨i, -, hm⟩ := List.mem_flatMap.1 hm
  cases hch : v.channel? c.place i with
  | none =>
    rw [marksOf_none hch] at hm
    cases hm
  | some ch =>
    have hnone : ch.firingsBy k c.use = 0 := by rw [Channel.firingsBy, h]; rfl
    rw [marksOf_some hch, hnone, List.replicate_zero, List.nil_append] at hm
    split at hm
    · rw [List.mem_singleton.1 hm]
      rfl
    · cases hm

theorem alarms_marksOf (h : v.channel? c.place i = some ch) (k : Clock) (vm : VmId) :
    (v.marksOf k c i).filterMap (Mark.alarm? vm) =
      IntervalTimer.expiries vm i ch.watcher (ch.firingsBy k c.use) := by
  have harmed : (if ch.isArmedBy i k c.use then [Mark.armed c.place i] else []).filterMap
      (Mark.alarm? vm) = [] := by
    split <;> rfl
  rw [marksOf_some h, List.filterMap_append, harmed, List.append_nil]
  cases ch.watcher with
  | none => exact List.filterMap_replicate_of_none rfl
  | some watcher => exact List.filterMap_replicate_of_some rfl

/-- **The watchers are told** of what the marks say. -/
theorem alarms_answer (v : Vm) (k : Clock) (c : Call) :
    (v.answer k c).alarms v.id = (v.marks k c).filterMap (Mark.alarm? v.id) := by
  cases h : v.timerAt? c.place with
  | none =>
    have hchannel : ∀ i, v.channel? c.place i = none := fun i => by rw [channel?, h]; rfl
    have hmarks : v.marks k c = [] :=
      List.flatMap_eq_nil_iff.2 fun i _ => marksOf_none (hchannel i) k
    rw [(answer_other h k).2, hmarks]
    rfl
  | some t =>
    have hchannel : ∀ i, v.channel? c.place i = some (t.channel i) := fun i => by
      rw [channel?, h]
      rfl
    have hmarks : (v.marks k c).filterMap (Mark.alarm? v.id) =
        if c.use.evaluates then t.told v.id k.now else [] := by
      rw [marks, List.filterMap_flatMap]
      simp only [alarms_marksOf (hchannel _), Channel.firingsBy]
      cases c.use.evaluates with
      | true => rfl
      | false =>
        rw [if_neg Bool.false_ne_true, List.flatMap_eq_nil_iff]
        intro i _
        cases (t.channel i).watcher <;> rfl
    rw [hmarks, alarms, (answer_timer h k).2]
    split
    · exact t.filter_told v.id k.now
    · rfl

/-! ## Calls one after the other -/

theorem alarms_answerAll (v : Vm) (k : Clock) (calls : List Call) :
    (v.answerAll k calls).alarms v.id = (v.chronicle k calls).filterMap (Mark.alarm? v.id) := by
  induction calls generalizing v with
  | nil => rfl
  | cons c calls ih =>
    have hrest := ih (v.answer k c).val
    rw [(v.keeps_answer k c).id] at hrest
    rw [answerAll_cons, alarms_bind, alarms_answer, hrest, chronicle, List.filterMap_append]

theorem expirations_answerAll (v : Vm) (k : Clock) (calls : List Call) (place : DeviceId)
    (i : Fin 3) : (v.answerAll k calls).val.expirations place i =
      v.expirations place i + (v.chronicle k calls).countP (Mark.expires place i) := by
  induction calls generalizing v with
  | nil => rfl
  | cons c calls ih =>
    rw [answerAll_cons, val_bind, ih, expirations_answer, chronicle, List.countP_append,
      Nat.add_assoc]

theorem shots_answerAll (v : Vm) (k : Clock) (calls : List Call) (place : DeviceId) (i : Fin 3) :
    (v.chronicle k calls).countP (Mark.shoots place i) +
        (v.answerAll k calls).val.shots place i ≤
      v.shots place i + (v.chronicle k calls).countP (Mark.arms place i) := by
  induction calls generalizing v with
  | nil => exact Nat.le_of_eq (Nat.zero_add _)
  | cons c calls ih =>
    have hfirst := v.shots_answer k c place i
    have hrest := ih (v.answer k c).val
    rw [answerAll_cons, val_bind, chronicle, List.countP_append, List.countP_append]
    omega

theorem isSome_channel?_answerAll (v : Vm) (k : Clock) (calls : List Call) (place : DeviceId)
    (i : Fin 3) : ((v.answerAll k calls).val.channel? place i).isSome =
      (v.channel? place i).isSome := by
  induction calls generalizing v with
  | nil => rfl
  | cons c calls ih => rw [answerAll_cons, val_bind, ih, channel?_answer, Option.isSome_map]

end Vm
end RealModeMonitor
