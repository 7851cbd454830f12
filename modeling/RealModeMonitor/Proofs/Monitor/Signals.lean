import RealModeMonitor.Proofs.Monitor.Answers

/-!
# Every expiration is signalled once

The chronicle of a session runs beside the operations on a monitor, as `Vm.chronicle` does beside
the calls of one session. What `accounts_perform` says of one operation is carried through a run,
operation after operation:

* the watchers are told what the chronicle says (`alarms_run`),
* the count of a channel grows by its expirations there (`counted_run`),
* those that are not periodic are no more than the reloads, and one that was armed before
  (`shots_run`).

**Theorem (`signals_once`).** All this holds from every reachable monitor on, for each of its
sessions and timers. What else a call of a timer does to its session is to raise the timer's line,
once for each expiration of channel 0.
-/

namespace RealModeMonitor.Monitor

open Traced

variable {config : Config} {m : Monitor} {b : VmId} {v v' : Vm} {op : Op} {ops : List Op}
  {place : DeviceId} {i : Fin 3} {ch : Channel}

/-- What happens to the channels of session `b` at an operation. -/
def marks (m : Monitor) (b : VmId) (op : Op) : List Mark :=
  ((m.registry.get? b).map fun v => v.chronicle (m.clockOf op) (m.deviceCalls v op)).getD []

/-- What happens to them at operations, one after the other. -/
def chronicle (b : VmId) (m : Monitor) : List Op → List Mark
  | [] => []
  | op :: ops => m.marks b op ++ chronicle b (m.perform op).val.2 ops

def channel? (m : Monitor) (b : VmId) (place : DeviceId) (i : Fin 3) : Option Channel :=
  (m.registry.get? b).bind fun v => v.channel? place i

theorem marks_live (live : m.registry.get? b = some v) (op : Op) :
    m.marks b op = v.chronicle (m.clockOf op) (m.deviceCalls v op) := by
  rw [marks, live]
  rfl

theorem marks_dead (dead : m.registry.get? b = none) (op : Op) : m.marks b op = [] := by
  rw [marks, dead]
  rfl

/-- **The watchers are told** what happens. -/
theorem alarms_perform (hm : Settled config m) (op : Op) (b : VmId) :
    (m.perform op).alarms b = (m.marks b op).filterMap (Mark.alarm? b) := by
  cases live : m.registry.get? b with
  | some v =>
    have hid := hm.named.id_of_get? live
    have hanswers := v.alarms_answerAll (m.clockOf op) (m.deviceCalls v op)
    rw [hid] at hanswers
    rw [(accounts_perform hm live op).alarms, marks_live live, hanswers]
  | none =>
    rw [marks_dead live]
    refine alarms_of_silent ?_
    -- A session that starts is told nothing; any other operation leaves the dead alone.
    by_cases hcreate : op = .create
    · rw [hcreate, perform, heard_map]
      exact m.notes_createVm.not_heard
    · obtain ⟨_, hfate, -⟩ := fate_perform (b := b) hm op fun h => absurd h hcreate
      exact (hfate.of_dead live).2.1

theorem alarms_run (hm : Settled config m) (ops : List Op) (b : VmId) :
    (m.run ops).alarms b = (m.chronicle b ops).filterMap (Mark.alarm? b) := by
  induction ops generalizing m with
  | nil => rfl
  | cons op ops ih =>
    rw [chronicle, List.filterMap_append, ← alarms_perform hm, ← ih (settled_perform hm op)]
    simp only [run, alarms_bind, alarms_pure, List.append_nil]

/-- What a live session is after an operation: its answers, or the same but for watchers. -/
theorem session_perform (hm : Settled config m) (live : m.registry.get? b = some v)
    (live' : (m.perform op).val.2.registry.get? b = some v') :
    v' = (v.answerAll (m.clockOf op) (m.deviceCalls v op)).val ∨
      m.deviceCalls v op = [] ∧ v.SameChannels v' := by
  have haccounts := accounts_perform hm live op
  by_cases hcalls : m.deviceCalls v op = []
  · exact .inr ⟨hcalls, (haccounts.besides hcalls v' live').channels⟩
  · have hafter := (haccounts.called hcalls).symm.trans live'
    rw [survivor] at hafter
    split at hafter
    · cases hafter
    · exact .inl (Option.some.inj hafter).symm

/-- **The count of expirations** of a channel grows with what happens. -/
theorem counted_perform (hm : Settled config m) (live : m.registry.get? b = some v)
    (live' : (m.perform op).val.2.registry.get? b = some v') (hch : v.channel? place i = some ch) :
    ∃ ch', v'.channel? place i = some ch' ∧
      ch'.expirations = ch.expirations + (m.marks b op).countP (Mark.expires place i) := by
  rw [marks_live live]
  obtain rfl | ⟨hcalls, hsame⟩ := session_perform hm live live'
  · have hcount := v.expirations_answerAll (m.clockOf op) (m.deviceCalls v op) place i
    have hsome := v.isSome_channel?_answerAll (m.clockOf op) (m.deviceCalls v op) place i
    rw [hch] at hsome
    obtain ⟨ch', hch'⟩ := Option.isSome_iff_exists.1 hsome
    rw [Vm.expirations_eq hch', Vm.expirations_eq hch] at hcount
    exact ⟨ch', hch', hcount⟩
  · obtain ⟨watcher, hch'⟩ := hsame place i ch hch
    exact ⟨_, hch', by rw [hcalls]; rfl⟩

theorem counted_run (hm : Settled config m) (hch : m.channel? b place i = some ch)
    (hlives : livesThrough b m ops = true) :
    ∃ ch', (m.run ops).val.2.channel? b place i = some ch' ∧
      ch'.expirations = ch.expirations + (m.chronicle b ops).countP (Mark.expires place i) := by
  induction ops generalizing m ch with
  | nil => exact ⟨ch, hch, rfl⟩
  | cons op ops ih =>
    obtain ⟨v, live, hv⟩ := Option.bind_eq_some_iff.1 hch
    obtain ⟨-, hlives⟩ := Bool.and_eq_true_iff.1 hlives
    have halive : (m.perform op).val.2.isAlive b = true := by
      cases ops with
      | nil => exact hlives
      | cons op' ops => exact (Bool.and_eq_true_iff.1 hlives).1
    obtain ⟨v', live'⟩ := Option.isSome_iff_exists.1 halive
    obtain ⟨ch₁, hch₁, hcount₁⟩ := counted_perform hm live live' hv
    obtain ⟨ch', hch', hcount⟩ := ih (settled_perform hm op)
      (by rw [channel?, live', Option.bind_some, hch₁]) hlives
    refine ⟨ch', hch', ?_⟩
    rw [hcount, hcount₁, chronicle, List.countP_append, Nat.add_assoc]

theorem shots_perform (hm : Settled config m) (live : m.registry.get? b = some v) (op : Op)
    (place : DeviceId) (i : Fin 3) :
    (m.marks b op).countP (Mark.shoots place i) ≤
        v.shots place i + (m.marks b op).countP (Mark.arms place i) ∧
      ∀ v', (m.perform op).val.2.registry.get? b = some v' →
        (m.marks b op).countP (Mark.shoots place i) + v'.shots place i ≤
          v.shots place i + (m.marks b op).countP (Mark.arms place i) := by
  rw [marks_live live]
  have hshots := v.shots_answerAll (m.clockOf op) (m.deviceCalls v op) place i
  refine ⟨Nat.le_trans (Nat.le_add_right _ _) hshots, fun v' live' => ?_⟩
  obtain rfl | ⟨hcalls, hsame⟩ := session_perform hm live live'
  · exact hshots
  · rw [hcalls]
    show 0 + v'.shots place i ≤ v.shots place i + 0
    rw [Nat.zero_add]
    exact hsame.shots place i

/-- Nothing happens to a dead session. -/
theorem chronicle_dead (hm : Settled config m) (dead : m.registry.get? b = none)
    (hnew : b ∉ newcomers (m.run ops).val.1) : m.chronicle b ops = [] := by
  induction ops generalizing m with
  | nil => rfl
  | cons op ops ih =>
    rw [newcomers_run_cons, List.mem_append, not_or] at hnew
    obtain ⟨_, hfate, -⟩ := fate_perform hm op fun _ => ne_of_not_newcomer hnew.1
    rw [chronicle, marks_dead dead, ih (settled_perform hm op) (hfate.of_dead dead).1 hnew.2]
    rfl

theorem shots_run (hm : Settled config m) (live : m.registry.get? b = some v)
    (hnew : b ∉ newcomers (m.run ops).val.1) :
    (m.chronicle b ops).countP (Mark.shoots place i) ≤
      v.shots place i + (m.chronicle b ops).countP (Mark.arms place i) := by
  induction ops generalizing m v with
  | nil => exact Nat.zero_le _
  | cons op ops ih =>
    rw [newcomers_run_cons, List.mem_append, not_or] at hnew
    have hnext := settled_perform hm op
    -- What an operation leaves of the shots pays for those to come, if the session lives on.
    obtain ⟨hlast, hfirst⟩ := shots_perform hm live op place i
    rw [chronicle, List.countP_append, List.countP_append]
    cases live' : (m.perform op).val.2.registry.get? b with
    | none =>
      rw [chronicle_dead hnext live' hnew.2]
      exact hlast
    | some v' =>
      have hfirst := hfirst v' live'
      have hrest := ih hnext live' hnew.2
      omega

/-- Session `b` of the monitor signals every expiration once, whatever is done. -/
structure SignalsOnce (m : Monitor) (b : VmId) : Prop where
  /-- The count of a channel grows by the expirations of the chronicle, -/
  counted : ∀ ops place i ch, m.channel? b place i = some ch → livesThrough b m ops = true →
    ∃ ch', (m.run ops).val.2.channel? b place i = some ch' ∧
      ch'.expirations = ch.expirations + (m.chronicle b ops).countP (Mark.expires place i)
  /-- and its watcher is told of each of them, in order, and of nothing else. -/
  told : ∀ ops, (m.run ops).alarms b = (m.chronicle b ops).filterMap (Mark.alarm? b)
  /-- Those that are not periodic are no more than the reloads and what was armed before. -/
  once : ∀ ops place i, b ∉ newcomers (m.run ops).val.1 →
    (m.chronicle b ops).countP (Mark.shoots place i) ≤
      ((m.channel? b place i).map Channel.shots).getD 1 +
        (m.chronicle b ops).countP (Mark.arms place i)
  /-- The session answers the calls of its devices. An operation without any leaves its channels
  alone, and its controllers unless it raises a line itself or makes an offer. -/
  accounts : ∀ op v, m.registry.get? b = some v → Accounts m b v op

theorem Settled.signalsOnce (hm : Settled config m) (b : VmId) : SignalsOnce m b where
  counted _ _ _ _ := counted_run hm
  told ops := alarms_run hm ops b
  once ops place i hnew := by
    cases live : m.registry.get? b with
    | none =>
      rw [chronicle_dead hm live hnew]
      exact Nat.zero_le _
    | some v =>
      have hshots : ((m.channel? b place i).map Channel.shots).getD 1 = v.shots place i := by
        rw [channel?, live]
        rfl
      rw [hshots]
      exact shots_run hm live hnew
  accounts op _ live := accounts_perform hm live op

/-- **Every expiration is signalled once**, in every reachable monitor. A timer that is called
raises the timer's line as often as its channel 0 expires, on the first controller, and no channel
expires unless the timer is ticked or one of its data ports is read. -/
theorem signals_once (hm : Reachable config m) (b : VmId) :
    SignalsOnce m b ∧
      ∀ (v : Vm) (k : Clock) (c : Call) (t : IntervalTimer), v.timerAt? c.place = some t →
        (v.answer k c).val = Vm.pulse^[(v.marks k c).countP (Mark.expires c.place 0)]
          (v.setDevice c.place (some (.pit (t.next k c.use)))) ∧
        (c.use.evaluates = false → ∀ mark ∈ v.marks k c, mark.isExpired = false) :=
  ⟨hm.settled.signalsOnce b, fun _ k _ _ ht =>
    ⟨Vm.val_answer_timer ht k, fun hevaluates _ => Vm.not_isExpired_of_mem hevaluates⟩⟩

/-- A session whose timer counts intervals of 10 on channel 0 and is to expire once on channel 2.
Both are watched. -/
def watched : Monitor :=
  let b : VmId := ⟨0, 0⟩
  let out (port : UInt16) (value : UInt8) : Op := .ioOut b port (.byte value)
  ((started { guestMemory := 0x500 }).run
    [.create, .installPic b, .installPit b, .watchTimer b 0 (some "clock"),
      .watchTimer b 2 (some "alarm"), out 0x43 0x34, out 0x40 10, out 0x40 0, out 0x43 0xB0,
      out 0x42 3, out 0x42 0]).val.2

/-- A tick, a read of channel 1 and two queries make the timer expire, and so would a report. -/
theorem signals_of_watched :
    let b : VmId := ⟨0, 0⟩
    let ops : List Op := [.timerTick 10, .advanceClock 10, .ioIn b 0x41 (.zeros 1),
      .advanceClock 20, .timerChannels b, .advanceClock 10, .timerChannel b 1, .advanceClock 10]
    let clock : Mark := .expired 1 0 (some "clock") true
    let alarm : Mark := .expired 1 2 (some "alarm") false
    Reachable { guestMemory := 0x500 } watched ∧
      watched.chronicle b ops = [clock, alarm, clock, clock, clock, clock] ∧
      (watched.run ops).val.2.marks b (.runShell "vminfo -pit") = [clock] ∧
      (watched.run ops).alarms b = [.timerExpired b 0 "clock", .timerExpired b 2 "alarm",
        .timerExpired b 0 "clock", .timerExpired b 0 "clock", .timerExpired b 0 "clock",
        .timerExpired b 0 "clock"] ∧
      (∃ ch, (watched.run ops).val.2.channel? b 1 0 = some ch ∧ ch.expirations = 5) ∧
      SignalsOnce watched b := by
  intro b ops clock alarm
  have hreachable : Reachable { guestMemory := 0x500 } watched := reachable_run rfl _
  have hsignals : SignalsOnce watched b := (signals_once hreachable b).1
  have hchronicle : watched.chronicle b ops = [clock, alarm, clock, clock, clock, clock] := by cbv
  have hfresh : (watched.channel? b 1 0).map Channel.expirations = some 0 := by cbv
  obtain ⟨ch, hch, hzero⟩ := Option.map_eq_some_iff.1 hfresh
  obtain ⟨ch', hch', hcount⟩ := hsignals.counted ops 1 0 ch hch (by cbv)
  rw [hchronicle, hzero] at hcount
  refine ⟨hreachable, hchronicle, by cbv, ?_, ⟨ch', hch', hcount⟩, hsignals⟩
  rw [hsignals.told, hchronicle]
  rfl

end RealModeMonitor.Monitor
