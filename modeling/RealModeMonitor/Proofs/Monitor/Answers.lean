import RealModeMonitor.Proofs.Monitor.Containment
import RealModeMonitor.Proofs.Monitor.Wake
import RealModeMonitor.Proofs.Vm.Rest

/-!
# What operations make of a session's devices

An operation calls devices of a session in one of a few ways: a host tick calls all of them, an
access to ports those that the ports lead to, and a query or a report of timers calls the session's
timer (`deviceCalls`). Of such an operation the session is left with its answers to these calls,
unless it dies (`Answers`). Any other operation raises a line, makes the guest an offer, or leaves
controllers and channels as they are (`Besides`).

`accounts_perform` says so of every operation on a settled monitor, and that the watchers of the
session are told of what its devices are called for and of nothing else.
-/

namespace RealModeMonitor

open Traced

/-! ## Alarms among what is heard -/

/-- The alarm that a note records. -/
def Note.alarm? : Note → Option Event
  | .event e => if e.isAlarm then some e else none
  | .diagnostic _ => none

theorem Note.alarm?_of_isRite {n : Note} (h : n.isRite = true) : n.alarm? = none := by
  cases n with
  | diagnostic d => rfl
  | event e => cases e <;> first | rfl | cases h

namespace Traced

variable {α : Type} {b : VmId} {x : Traced α}

theorem alarms_eq_calls (b : VmId) (x : Traced α) :
    x.alarms b = (x.calls b).filter Event.isAlarm := by
  rw [alarms, calls, List.filter_filter]

theorem alarms_eq_heard (b : VmId) (x : Traced α) :
    x.alarms b = (x.heard b).filterMap Note.alarm? := by
  rw [alarms_eq_calls, calls_eq_heard, List.filter_filterMap]
  congr 1
  funext n
  cases n with
  | diagnostic d => rfl
  | event e => simp [Note.event?, Note.alarm?, Option.filter]

theorem alarms_of_silent (h : x.heard b = []) : x.alarms b = [] := by
  rw [alarms_eq_heard, h]
  rfl

theorem alarms_of_calls (h : x.calls b = []) : x.alarms b = [] := by
  rw [alarms_eq_calls, h]
  rfl

end Traced

theorem ServiceTable.alarms_dispatch (t : ServiceTable) (vm : VmId) (number : UInt8) (g : Guest)
    (b : VmId) : (t.dispatch vm number g).alarms b = [] := by
  unfold dispatch
  split
  · rfl
  next s _ =>
    simp only [alarms_bind, alarms_of_silent (g.notes_run _).not_heard, alarms_pure]
    rfl

theorem Vm.events_raise (v : Vm) (line : UInt8) : (v.raise line).events = [] := by
  unfold raise
  split
  · rfl
  · simp [InterruptController.events_raise]

theorem Vm.events_deliver (v : Vm) : v.deliver.events = [] := by
  unfold deliver
  split
  · rfl
  · simp [InterruptController.events_deliver]

namespace Monitor

variable {α β : Type} {config : Config} {m : Monitor} {b c : VmId} {v v' : Vm} {op : Op}
  {k : Clock} {calls : List Call}

/-! ## What an operation calls -/

/-- The clock by which an operation calls devices. -/
def clockOf (m : Monitor) : Op → Clock
  | .timerTick n => m.clock.advance n
  | _ => m.clock

/-- The calls of the devices of session `v` that an operation makes, in order. -/
def deviceCalls (m : Monitor) (v : Vm) : Op → List Call
  | .timerTick _ => v.ticks
  | .ioIn id port operand => if id = v.id then v.io.reads port operand.width else []
  | .ioOut id port operand => if id = v.id then v.io.writes port operand.bytes else []
  | .timerChannel id _ | .timerChannels id => if id = v.id then v.syncs else []
  | .runShell line => if m.asksTimers line then v.syncs else []
  | _ => []

/-- The line that an operation itself raises on session `b`. -/
def Op.raised? (m : Monitor) (b : VmId) : Op → Option UInt8
  | .raiseIrq id line => if id = b then some line else none
  | .hardwareIrq irq => if m.registry.irqOwner? irq = some b then some irq else none
  | _ => none

/-- What an operation that calls no device of session `v` may make of it. -/
inductive Besides (m : Monitor) (op : Op) (v : Vm) : Vm → Prop where
  | raised {line : UInt8} (h : op.raised? m v.id = some line) : Besides m op v (v.raise line).val.2
  | offered (h : op.offers = true) (guest : Guest) : Besides m op v { v with guest }.deliver.val.2
  | rests {v' : Vm} (h : v.Rests v') : Besides m op v v'

theorem Besides.channels (h : Besides m op v v') : v.SameChannels v' := by
  cases h with
  | raised => exact v.sameChannels_raise _
  | offered _ guest => exact v.sameChannels_deliver guest
  | rests h => exact h.channels

/-- What an operation does to the session `v`, which is `b` in the monitor `m`. -/
structure Accounts (m : Monitor) (b : VmId) (v : Vm) (op : Op) : Prop where
  alarms : (m.perform op).alarms b = (v.answerAll (m.clockOf op) (m.deviceCalls v op)).alarms b
  called : m.deviceCalls v op ≠ [] → (m.perform op).val.2.registry.get? b =
    survivor (v.answerAll (m.clockOf op) (m.deviceCalls v op)).val
  besides : m.deviceCalls v op = [] → ∀ v', (m.perform op).val.2.registry.get? b = some v' →
    Besides m op v v'

/-! ## Operations that call devices -/

/-- The session `v` answers calls in `x`, and nothing else happens to it. -/
structure Answers (b : VmId) (k : Clock) (v : Vm) (calls : List Call) (x : Traced (α × Monitor)) :
    Prop where
  alarms : x.alarms b = (v.answerAll k calls).alarms b
  after : x.val.2.registry.get? b = survivor (v.answerAll k calls).val

theorem Answers.map {x : Traced (α × Monitor)} (hx : Answers b k v calls x)
    {f : α × Monitor → β × Monitor} (hf : ∀ y, (f y).2 = y.2) : Answers b k v calls (f <$> x) :=
  ⟨by rw [alarms_map, hx.alarms], by rw [val_map, hf, hx.after]⟩

theorem Answers.bind {x : Traced (α × Monitor)} {f : α × Monitor → Traced (β × Monitor)}
    (hx : Answers b k v calls x) (hf : Spares b x.val.2 (f x.val)) :
    Answers b k v calls (x >>= f) where
  alarms := by rw [alarms_bind, hx.alarms, alarms_of_calls hf.calls, List.append_nil]
  after := (congrArg View.session hf.after).trans hx.after

theorem Spares.answers {x : Traced (α × Monitor)} {f : α × Monitor → Traced (β × Monitor)}
    (hx : Spares b m x) (hf : Answers b k v calls (f x.val)) : Answers b k v calls (x >>= f) where
  alarms := by rw [alarms_bind, alarms_of_calls hx.calls, hf.alarms, List.nil_append]
  after := hf.after

/-- A session that dies alarms nobody. -/
theorem alarms_lastWords (hv : v.Swept) : (lastWords b v).filterMap Note.alarm? = [] := by
  by_cases hid : v.id = b
  · subst hid
    unfold lastWords
    split
    · rw [lastHeard_eq hv, List.filterMap_eq_nil_iff]
      exact fun n hn => Note.alarm?_of_isRite (Vm.isRite_of_mem hn).1
    · rfl
  · rw [lastWords_other hid]
    rfl

theorem alarms_withVm {f : Vm → Traced (Except MonitorError α × Vm)}
    (live : m.registry.get? c = some v) (hv : (f v).val.2.Swept) (b : VmId) :
    (m.withVm c f).alarms b = (f v).alarms b := by
  rw [alarms_eq_heard, heard_withVm live, List.filterMap_append, alarms_lastWords hv,
    List.append_nil, alarms_eq_heard]

theorem answers_withVm {f : Vm → Traced (Except MonitorError α × Vm)} (hm : Sound config m)
    (live : m.registry.get? b = some v) (hsession : (f v).val.2 = (v.answerAll k calls).val)
    (halarms : (f v).alarms b = (v.answerAll k calls).alarms b) :
    Answers b k v calls (m.withVm b f) where
  alarms := by
    rw [alarms_withVm live, halarms]
    rw [hsession]
    exact (v.keeps_answerAll k calls).swept (hm.swept b v live)
  after := by rw [get?_withVm, if_pos rfl, live, Option.bind_some, hsession]

theorem answers_ioIn (hm : Sound config m) (live : m.registry.get? b = some v) (port : UInt16)
    (operand : Operand) :
    Answers b m.clock v (v.io.reads port operand.width) (m.ioIn b port operand) := by
  rw [ioIn]
  refine answers_withVm hm live ?_ ?_
  · rw [← Vm.readBytes_eq, val_map]
    simp only [val_bind]
    split <;> rfl
  · rw [← Vm.readBytes_eq, alarms_map]
    simp only [alarms_bind]
    split <;> simp [alarms]

theorem answers_ioOut (hm : Sound config m) (live : m.registry.get? b = some v) (port : UInt16)
    (operand : Operand) :
    Answers b m.clock v (v.io.writes port operand.bytes) (m.ioOut b port operand) := by
  rw [ioOut]
  refine answers_withVm hm live ?_ ?_
  · rw [← Vm.writeBytes_eq, val_map]
    simp only [val_bind]
    split <;> rfl
  · rw [← Vm.writeBytes_eq, alarms_map]
    simp only [alarms_bind]
    split <;> simp [alarms]

theorem answers_inspectTimer (hm : Sound config m) (live : m.registry.get? b = some v)
    (f : IntervalTimer → Except MonitorError α) :
    Answers b m.clock v v.syncs (m.inspectTimer b f) := by
  rw [inspectTimer]
  refine answers_withVm hm live ?_ ?_
  · rw [← Vm.syncTimer_eq]
    simp only [val_bind, val_pure]
    split <;> rfl
  · rw [← Vm.syncTimer_eq]
    simp only [alarms_bind, alarms_pure, List.append_nil]

theorem answers_timerTick (hm : Sound config m) (live : m.registry.get? b = some v) (n : UInt32) :
    Answers b (m.clock.advance n) v v.ticks (m.perform (.timerTick n)) := by
  obtain ⟨hview, hheard⟩ := timerTick_eq hm n b
  have hsession := congrArg View.session hview
  rw [live] at hheard hsession
  refine ⟨?_, ?_⟩
  · have hperform : (m.perform (.timerTick n)).heard b = (m.timerTick n).heard b := by
      simp [perform]
    have hswept := (v.keeps_tick (m.clock.advance n)).swept (hm.swept b v live)
    have hlast := alarms_lastWords (b := b) hswept
    rw [alarms_eq_heard, hperform, hheard, List.filterMap_append, ← Vm.tick_eq_answerAll,
      alarms_eq_heard]
    simp only [ticked, heard_map, val_map, Option.map_some, Option.getD_some]
    rw [hlast, List.append_nil]
  · rw [← Vm.tick_eq_answerAll]
    exact hsession

/-! ## Reports -/

theorem answers_timerReport (hm : Sound config m) (live : m.registry.get? b = some v) :
    Answers b m.clock v v.syncs (m.timerReport b) := by
  refine (answers_inspectTimer hm live fun t => .ok t.views).bind ?_
  dsimp only
  split <;> exact spares_pure b _ _

theorem spares_timerReport (hm : Sound config m) (hb : b ≠ c) : Spares b m (m.timerReport c) := by
  refine Spares.bind (spares_withVm hm (fun v => (serves_inspectTimer c m.clock _ v).keeps)
    (fun v _ => (serves_inspectTimer c m.clock _ v).notes) hb) ?_
  dsimp only
  split <;> exact spares_pure b _ _

theorem answers_sessionReport (hm : Settled config m) {o : ReportOptions} (ho : o.timer = true)
    {s : VmSummary} (live : m.registry.get? s.id = some v) :
    Answers s.id m.clock v v.syncs (sessionReport o m s) := by
  obtain ⟨text, htext⟩ := controllerReport_eq hm s.id
  simp only [sessionReport, htext, pure_bind, if_pos ho]
  split
  all_goals exact (answers_timerReport hm.toSound live).bind (spares_pure s.id _ _)

theorem spares_sessionReport (hm : Settled config m) (o : ReportOptions) {s : VmSummary}
    (hb : b ≠ s.id) : Spares b m (sessionReport o m s) := by
  obtain ⟨text, htext⟩ := controllerReport_eq hm s.id
  simp only [sessionReport, htext, pure_bind]
  split
  all_goals
    split
    · exact (spares_timerReport hm.toSound hb).bind (spares_pure b _ _)
    · exact spares_pure b m _

theorem spares_report (hm : Settled config m) (o : ReportOptions) {ss : List VmSummary}
    (hb : b ∉ ss.map VmSummary.id) : Spares b m (report o m ss) := by
  induction ss generalizing m with
  | nil => exact spares_pure b m _
  | cons s ss ih =>
    obtain ⟨hs, hss⟩ := List.ne_and_not_mem_of_not_mem_cons hb
    have hnext := (goes_sessionReport hm o s).settled hm
    exact (spares_sessionReport hm o hs).bind ((ih hnext hss).bind (spares_pure b _ _))

/-- **A report** brings the timer of each session up to date in its turn. -/
theorem answers_report (hm : Settled config m) {o : ReportOptions} (ho : o.timer = true)
    {ss : List VmSummary} (hss : (ss.map VmSummary.id).Nodup) (hb : b ∈ ss.map VmSummary.id)
    (live : m.registry.get? b = some v) : Answers b m.clock v v.syncs (report o m ss) := by
  induction ss generalizing m with
  | nil => cases hb
  | cons s ss ih =>
    obtain ⟨hs, hss⟩ := List.nodup_cons.1 hss
    have hnext := (goes_sessionReport hm o s).settled hm
    by_cases hid : b = s.id
    · subst hid
      exact (answers_sessionReport hm ho live).bind
        ((spares_report hnext o hs).bind (spares_pure s.id _ _))
    · have hspares := spares_sessionReport hm o hid
      -- The report of another session moves neither `b` nor the clock.
      have hclock : (sessionReport o m s).val.2.clock = m.clock := congrArg View.clock hspares.after
      have hlive : (sessionReport o m s).val.2.registry.get? b = some v :=
        (congrArg View.session hspares.after).trans live
      refine hspares.answers ?_
      rw [← hclock]
      exact (ih hnext hss ((List.mem_cons.1 hb).resolve_left hid) hlive).bind (spares_pure b _ _)

theorem answers_vminfo (hm : Settled config m) (live : m.registry.get? b = some v)
    {arguments : List String} {o : ReportOptions}
    (hoptions : ReportOptions.ofWords? arguments = some o) (ho : o.timer = true) :
    Answers b m.clock v v.syncs (m.vminfo arguments) := by
  have hids : m.summaries.map VmSummary.id = m.registry.ids := List.map_map
  have hb : b ∈ m.summaries.map VmSummary.id := by
    rw [hids, hm.named.mem_ids_iff, Registry.isAlive, live]
    rfl
  have hsome : m.summaries.isEmpty = false := by
    cases hsummaries : m.summaries with
    | nil => rw [hsummaries] at hb; cases hb
    | cons s ss => rfl
  simp only [vminfo, hoptions, hsome, Bool.false_eq_true, if_false]
  refine (answers_report hm ho ?_ hb live).bind (spares_pure b _ _)
  rw [hids]
  exact hm.named.nodup_ids

theorem answers_runShell (hm : Settled config m) (live : m.registry.get? b = some v)
    {line : String} (hasks : m.asksTimers line = true) :
    Answers b m.clock v v.syncs (m.runShell line) := by
  unfold asksTimers at hasks
  unfold runShell
  cases hwords : Text.words line with
  | nil => simp [hwords] at hasks
  | cons name arguments =>
    simp only [hwords] at hasks ⊢
    cases hcommand : m.shell.lookup? name with
    | none => simp [hcommand] at hasks
    | some command =>
      cases haction : command.action with
      | dbio | modules | help | external => simp [hcommand, haction] at hasks
      | vminfo =>
        simp only [hcommand, Option.map_some, haction] at hasks
        cases hoptions : ReportOptions.ofWords? arguments with
        | none => simp [hoptions] at hasks
        | some o =>
          have ho : o.timer = true := by simpa [hoptions] using hasks
          simp only [haction, runAction]
          exact answers_vminfo hm live hoptions ho

/-! ## What lives on -/

/-- Session `b`, which was `v`, lives on as `R` has it. -/
def LivesOn (R : Vm → Vm → Prop) (b : VmId) (v : Vm) (x : Traced (α × Monitor)) : Prop :=
  ∃ v', x.val.2.registry.get? b = some v' ∧ R v v'

/-- Attaching devices is in `R`, and so is any change of routes or services. -/
structure Lasting (R : Vm → Vm → Prop) : Prop where
  refl : ∀ v, R v v
  trans : ∀ {v v' v''}, R v v' → R v' v'' → R v v''
  attached : ∀ (v : Vm) (d : Device), R v (v.attach d).2
  installed : ∀ (v : Vm) (d : Device), R v (v.install d).2
  io : ∀ (v : Vm) (io : HandlerTable), R v { v with io }
  services : ∀ (v : Vm) (services : ServiceTable), R v { v with services }

section

variable {R : Vm → Vm → Prop} {x : Traced (α × Monitor)}

theorem LivesOn.map (hx : LivesOn R b v x) {f : α × Monitor → β × Monitor}
    (hf : ∀ y, (f y).2 = y.2) : LivesOn R b v (f <$> x) := by
  rwa [LivesOn, val_map, hf]

/-- A session that is put back. -/
theorem livesOn_put (live : m.registry.get? b = some v)
    (hregistry : x.val.2.registry = m.registry.set b v') (h : R v v') : LivesOn R b v x :=
  ⟨v', by rw [hregistry, Registry.get?_set live, if_pos rfl], h⟩

namespace Lasting

variable (hR : Lasting R)
include hR

theorem livesOn_of_same (hsame : x.val.2.registry.get? b = some v) : LivesOn R b v x :=
  ⟨v, hsame, hR.refl v⟩

theorem livesOn_attachDevice (hm : Sound config m) (live : m.registry.get? b = some v)
    (d : Device) : LivesOn R b v (m.attachDevice b d) := by
  obtain ⟨-, modules, hval⟩ := attachDevice_live hm live d
  exact livesOn_put live (by rw [hval]) (hR.attached v d)

theorem livesOn_installDevice (hm : Sound config m) (live : m.registry.get? b = some v)
    (d : Device) : LivesOn R b v (m.installDevice b d) := by
  obtain ⟨-, modules, hval⟩ := installDevice_live hm live d
  exact livesOn_put live (by rw [hval]) (hR.installed v d)

theorem livesOn_installCmos (hm : Settled config m) (live : m.registry.get? b = some v) :
    LivesOn R b v (m.installCmos b) := by
  rw [installCmos, inspectVm_eq hm, live, pure_bind]
  exact hR.livesOn_installDevice hm.toSound live _

/-- Pieces in which session `b` lives on as `R` has it, while the monitor stays settled. -/
theorem composable_livesOn (config : Config) (b : VmId) :
    Composable fun {α} m (x : Traced (α × Monitor)) => ∀ v, Settled config m →
      m.registry.get? b = some v → Settled config x.val.2 ∧ LivesOn R b v x where
  pure _ _ _ hm live := ⟨hm, hR.livesOn_of_same live⟩
  bind hx hf v hm live := by
    obtain ⟨hnext, v', live', h⟩ := hx v hm live
    obtain ⟨hlast, v'', live'', h'⟩ := hf v' hnext live'
    exact ⟨hlast, v'', live'', hR.trans h h'⟩

theorem livesOn_installStandardDevices (hm : Settled config m)
    (live : m.registry.get? b = some v) : LivesOn R b v (m.installStandardDevices b) := by
  have hinstall : ∀ d m v, Settled config m → m.registry.get? b = some v →
      Settled config (m.installDevice b d).val.2 ∧ LivesOn R b v (m.installDevice b d) :=
    fun d m v hm live => ⟨(installs_installDevice hm b d).toPasses.settled hm,
      hR.livesOn_installDevice hm.toSound live d⟩
  have hcmos : ∀ m v, Settled config m → m.registry.get? b = some v →
      Settled config (m.installCmos b).val.2 ∧ LivesOn R b v (m.installCmos b) :=
    fun m v hm live => ⟨(installs_installCmos hm b).toPasses.settled hm,
      hR.livesOn_installCmos hm live⟩
  exact ((hR.composable_livesOn config b).installStandardDevices (hinstall _) (hinstall _)
    (hinstall _) hcmos m v hm live).2

/-- An operation on the session that is neither work on it nor its end. -/
theorem livesOn_aside {clock : Clock} {ioTrace : Bool} (hm : Settled config m)
    (live : m.registry.get? b = some v) (hsubject : op.subject? = some b)
    (hwork : op.work? clock ioTrace = none) (hkill : op ≠ .kill b) :
    LivesOn R b v (m.perform op) := by
  cases op <;> cases hsubject <;> cases hwork
  case kill => exact absurd rfl hkill
  case isAlive | ioHandler | serviceName => exact hR.livesOn_of_same live
  case grabIrq irq =>
    exact hR.livesOn_of_same (((grabIrq_outcome hm b irq).2.1 b).same.trans live)
  case removeIoHandler range =>
    refine livesOn_put live ?_ (hR.io v (v.io.remove range).2)
    simp only [perform, val_pure, removeIoHandler, live]
  case removeService number =>
    refine livesOn_put live ?_ (hR.services v (v.services.remove number))
    simp only [perform, val_pure, removeService, live]
  case attach d => exact (hR.livesOn_attachDevice hm.toSound live d).map (snd_ofResult _)
  case install d => exact (hR.livesOn_installDevice hm.toSound live d).map (snd_ofResult _)
  case installPic | installPit | installDma =>
    exact (hR.livesOn_installDevice hm.toSound live _).map (snd_ofResult _)
  case installCmos => exact (hR.livesOn_installCmos hm live).map (snd_ofResult _)
  case installStandard => exact (hR.livesOn_installStandardDevices hm live).map (snd_ofResult _)

end Lasting

end

/-! ## Operations that call no device -/

/-- `x` tells no watcher of session `b`, which was `v`, and leaves its devices alone. -/
structure Rests (b : VmId) (v : Vm) (x : Traced (α × Monitor)) : Prop where
  alarms : x.alarms b = []
  after : ∃ v', x.val.2.registry.get? b = some v' ∧ v.Rests v'

theorem rests_of_same {x : Traced (α × Monitor)} (halarms : x.alarms b = [])
    (hsame : x.val.2.registry.get? b = some v) : Rests b v x :=
  ⟨halarms, v, hsame, .refl v⟩

theorem Misses.rests {x : Traced (α × Monitor)} (hx : Misses b m x)
    (live : m.registry.get? b = some v) : Rests b v x :=
  rests_of_same (alarms_of_silent hx.silent) (hx.same.trans live)

theorem Spares.rests {x : Traced (α × Monitor)} (hx : Spares b m x)
    (live : m.registry.get? b = some v) : Rests b v x :=
  rests_of_same (alarms_of_calls hx.calls) ((congrArg View.session hx.after).trans live)

theorem Rests.map {x : Traced (α × Monitor)} (hx : Rests b v x) {f : α × Monitor → β × Monitor}
    (hf : ∀ y, (f y).2 = y.2) : Rests b v (f <$> x) :=
  ⟨by rw [alarms_map, hx.alarms], by rw [val_map, hf]; exact hx.after⟩

theorem lasting_rests : Lasting Vm.Rests where
  refl := .refl
  trans := .trans
  attached v d := v.rests_attach d
  installed v d := by
    obtain ⟨io, -, hinstall⟩ | ⟨e, io, -, hinstall⟩ := v.install_cases d
    all_goals rw [hinstall]
    · exact (v.rests_attach d).trans (Vm.rests_of_eq rfl)
    · exact (v.rests_retract d).trans (Vm.rests_of_eq rfl)
  io _ _ := Vm.rests_of_eq rfl
  services _ _ := Vm.rests_of_eq rfl

/-- Nothing is heard of a session where it is neither worked on nor ended. -/
theorem silent_aside {clock : Clock} {ioTrace : Bool} (hm : Settled config m)
    (hsubject : op.subject? = some b) (hwork : op.work? clock ioTrace = none)
    (hkill : op ≠ .kill b) : (m.perform op).heard b = [] := by
  cases op <;> cases hsubject <;> cases hwork
  case kill => exact absurd rfl hkill
  case isAlive | ioHandler | serviceName | removeIoHandler | removeService => rfl
  case grabIrq irq => exact ((grabIrq_outcome hm b irq).2.1 b).silent
  case attach d => exact (heard_map _ _).trans ((installs_attachDevice hm b d).silent b)
  case install d => exact (heard_map _ _).trans ((installs_installDevice hm b d).silent b)
  case installPic | installPit | installDma =>
    exact (heard_map _ _).trans ((installs_installDevice hm b _).silent b)
  case installCmos => exact (heard_map _ _).trans ((installs_installCmos hm b).silent b)
  case installStandard =>
    exact (heard_map _ _).trans ((installs_installStandardDevices hm b).silent b)

/-- An operation on the session that is neither work on it nor its end. -/
theorem rests_aside {clock : Clock} {ioTrace : Bool} (hm : Settled config m)
    (live : m.registry.get? b = some v) (hsubject : op.subject? = some b)
    (hwork : op.work? clock ioTrace = none) (hkill : op ≠ .kill b) : Rests b v (m.perform op) where
  alarms := alarms_of_silent (silent_aside hm hsubject hwork hkill)
  after := lasting_rests.livesOn_aside hm live hsubject hwork hkill

/-- An operation on another session. -/
theorem spares_other (hm : Sound config m) (hsubject : op.subject? = some c) (hb : b ≠ c)
    (hgrab : ∀ irq, op ≠ .grabIrq c irq) : Spares b m (m.perform op) := by
  cases hwork : op.work? m.clock m.ioTrace with
  | some found =>
    obtain ⟨c', work⟩ := found
    obtain rfl : c' = c := Option.some.inj ((subject?_of_work hwork).symm.trans hsubject)
    exact (confined_work hwork).spares hm hb
  | none =>
    refine (confined_other hsubject ?_ hwork).spares hm hb
    cases op <;> cases hsubject <;> cases hwork <;> first | rfl | exact absurd rfl (hgrab _)

/-! ## Work that calls no device -/

def Op.callsDevices : Op → Bool
  | .timerTick _ | .ioIn .. | .ioOut .. | .timerChannel .. | .timerChannels _ | .runShell _ => true
  | _ => false

theorem deviceCalls_of_not_callsDevices (h : op.callsDevices = false) (m : Monitor) (v : Vm) :
    m.deviceCalls v op = [] := by
  cases op <;> first | rfl | cases h

theorem deviceCalls_other (hsubject : op.subject? = some c) (hc : c ≠ v.id) :
    m.deviceCalls v op = [] := by
  cases op <;> cases hsubject <;> simp [deviceCalls, hc]

theorem alarms_replying {g : α → Reply} {f : Vm → Traced (Except MonitorError α × Vm)}
    (h : (f v).alarms b = []) : (Work.replying g f v).alarms b = [] := by
  rw [Work.replying, alarms_bind, h]
  rfl

theorem alarms_raiseOn (id : VmId) (v : Vm) (line : UInt8) : (raiseOn id line v).alarms b = [] := by
  rw [raiseOn, alarms_bind, Traced.alarms_of_events (v.events_raise line)]
  rfl

theorem alarms_deliverOn (id : VmId) (v : Vm) : (deliverOn id v).alarms b = [] := by
  rw [deliverOn, alarms_bind, Traced.alarms_of_events v.events_deliver]
  rfl

theorem Edits.rests (h : Edits v op v') : v.Rests v' := by
  cases h with
  | refused | routed | served => exact Vm.rests_of_eq rfl
  | @watched _ _ _ device t _ place watches =>
    have htimer : v.timerAt? device = some t := by rw [Vm.timerAt?, place]; rfl
    exact Vm.rests_watch htimer watches
  | programmed place => exact Vm.rests_setDevice place rfl rfl

theorem alarms_edits {clock : Clock} {ioTrace : Bool} {work : Work}
    (h : op.work? clock ioTrace = some (b, work)) (hedits : op.edits = true) :
    (work v).alarms b = [] := by
  cases op <;> cases h <;> cases hedits <;> rfl

/-- **Work** that calls no device of the session. -/
theorem besides_work {clock : Clock} {ioTrace : Bool} {work : Work}
    (h : op.work? clock ioTrace = some (b, work)) (hid : v.id = b)
    (hcalls : op.callsDevices = false) :
    (work v).alarms b = [] ∧ Besides m op v (work v).val.2 := by
  refine if hedits : op.edits = true then
    ⟨alarms_edits h hedits, .rests (edits_work h hedits).rests⟩ else ?_
  cases op <;> cases h <;> cases hcalls
  case addIoHandler | addService | watchTimer | setDmaProgram => exact absurd rfl hedits
  case addKillHandler | bindTask | disableInterrupts | setResumable =>
    exact ⟨rfl, .rests (Vm.rests_of_eq rfl)⟩
  case controller | dmaProgram => exact ⟨rfl, .rests (.refl v)⟩
  case dispatchService number =>
    refine ⟨alarms_replying ?_, .rests (Vm.rests_of_eq rfl)⟩
    rw [alarms_bind, ServiceTable.alarms_dispatch]
    rfl
  case raiseIrq line =>
    refine ⟨alarms_replying (alarms_raiseOn _ v line), ?_⟩
    have hsession : (Work.replying .irq (raiseOn b line) v).val.2 = (v.raise line).val.2 :=
      session_raiseOn line
    rw [hsession]
    exact .raised (if_pos hid.symm)
  case interrupt vector =>
    refine ⟨alarms_replying ?_, .rests (Vm.rests_of_eq rfl)⟩
    rw [alarms_bind, alarms_of_silent (v.guest.notes_inject vector).not_heard]
    rfl
  case enableInterrupts =>
    exact ⟨alarms_replying (alarms_deliverOn _ _), .offered rfl (v.guest.setVif true)⟩
  case guestIret =>
    unfold Work.replying
    simp only [val_bind, val_pure, alarms_bind]
    split
    · exact ⟨rfl, .rests (Vm.rests_of_eq rfl)⟩
    next guest _ =>
      refine ⟨?_, .offered rfl guest⟩
      rw [alarms_deliverOn]
      rfl
  case withGuest actions =>
    refine ⟨alarms_replying ?_, .rests (Vm.rests_of_eq rfl)⟩
    rw [alarms_bind, alarms_of_silent (v.guest.notes_run actions).not_heard]
    rfl

/-! ## Every operation -/

theorem accounts_of_answers (hv : v.guest.faulted = false)
    (hx : Answers b (m.clockOf op) v (m.deviceCalls v op) (m.perform op)) : Accounts m b v op where
  alarms := hx.alarms
  called _ := hx.after
  besides hnone v' hv' := by
    -- Without calls the answers are the session itself, which has not faulted and survives.
    have hsame : survivor v = some v' := by
      have hafter := hx.after
      rw [hnone] at hafter
      exact hafter.symm.trans hv'
    rw [survivor, hv] at hsame
    obtain rfl := Option.some.inj hsame
    exact .rests (.refl v)

theorem accounts_of_besides (hcalls : m.deviceCalls v op = [])
    (halarms : (m.perform op).alarms b = [])
    (h : ∀ v', (m.perform op).val.2.registry.get? b = some v' → Besides m op v v') :
    Accounts m b v op where
  alarms := by rw [halarms, hcalls]; rfl
  called hne := absurd hcalls hne
  besides _ := h

theorem Rests.accounts (hx : Rests b v (m.perform op)) (hcalls : m.deviceCalls v op = []) :
    Accounts m b v op := by
  obtain ⟨v', hv', hrests⟩ := hx.after
  refine accounts_of_besides hcalls hx.alarms fun v'' hv'' => ?_
  obtain rfl := Option.some.inj (hv'.symm.trans hv'')
  exact .rests hrests

/-- Work on the session that calls no device. -/
theorem accounts_withVm {f : Vm → Traced (Except MonitorError α × Vm)}
    {g : Except MonitorError α × Monitor → Reply × Monitor} (hm : Sound config m)
    (live : m.registry.get? b = some v) (hkeeps : v.Keeps (f v).val.2)
    (hcalls : m.deviceCalls v op = []) (hop : m.perform op = g <$> m.withVm b f)
    (hg : ∀ y, (g y).2 = y.2) (halarms : (f v).alarms b = []) (h : Besides m op v (f v).val.2) :
    Accounts m b v op := by
  have hswept := hkeeps.swept (hm.swept b v live)
  refine accounts_of_besides hcalls ?_ fun v' hv' => ?_
  · rw [hop, alarms_map, alarms_withVm live hswept, halarms]
  · rw [hop, val_map, hg, get?_withVm, if_pos rfl, live, Option.bind_some, survivor] at hv'
    split at hv'
    · cases hv'
    · obtain rfl := Option.some.inj hv'
      exact h

theorem answers_subject (hm : Settled config m) (live : m.registry.get? b = some v)
    (hsubject : op.subject? = some b) (hcalls : op.callsDevices = true) :
    Answers b (m.clockOf op) v (m.deviceCalls v op) (m.perform op) := by
  have hid : v.id = b := hm.named.id_of_get? live
  cases op <;> cases hsubject <;> cases hcalls
  all_goals simp only [deviceCalls, hid, if_true, clockOf]
  case ioIn port operand => exact (answers_ioIn hm.toSound live port operand).map (snd_ofResult _)
  case ioOut port operand => exact (answers_ioOut hm.toSound live port operand).map (snd_ofResult _)
  case timerChannel | timerChannels =>
    exact (answers_inspectTimer hm.toSound live _).map (snd_ofResult _)

theorem accounts_kill (hm : Settled config m) (live : m.registry.get? b = some v) :
    Accounts m b v (.kill b) := by
  have hid : v.id = b := hm.named.id_of_get? live
  refine accounts_of_besides rfl ?_ fun v' hv' => ?_
  · rw [alarms_eq_heard, heard_kill, heard_bury live, ← hid, lastHeard_eq (hm.swept b v live),
      List.filterMap_eq_nil_iff]
    exact fun n hn => Note.alarm?_of_isRite (Vm.isRite_of_mem hn).1
  · rw [get?_kill, if_pos rfl] at hv'
    cases hv'

/-- An operation on the session. -/
theorem accounts_subject (hm : Settled config m) (live : m.registry.get? b = some v)
    (hsubject : op.subject? = some b) : Accounts m b v op := by
  cases hcalls : op.callsDevices with
  | true =>
    exact accounts_of_answers (hm.unfaulted b v live) (answers_subject hm live hsubject hcalls)
  | false =>
    have hnone := deviceCalls_of_not_callsDevices hcalls m v
    cases hwork : op.work? m.clock m.ioTrace with
    | some found =>
      obtain ⟨c, work⟩ := found
      obtain rfl : c = b := Option.some.inj ((subject?_of_work hwork).symm.trans hsubject)
      obtain ⟨halarms, hbesides⟩ := besides_work (m := m) hwork (hm.named.id_of_get? live) hcalls
      have hperform := (perform_work hwork).trans (m.onSession_eq_withVm c work)
      exact accounts_withVm hm.toSound live (keeps_work hwork v) hnone hperform (snd_ofResult _)
        ((alarms_map _ _).trans halarms) hbesides
    | none =>
      by_cases hkill : op = .kill b
      · rw [hkill]
        exact accounts_kill hm live
      · exact (rests_aside hm live hsubject hwork hkill).accounts hnone

theorem accounts_hardwareIrq (hm : Settled config m) (live : m.registry.get? b = some v)
    (irq : UInt8) : Accounts m b v (.hardwareIrq irq) := by
  have hid : v.id = b := hm.named.id_of_get? live
  cases howner : m.registry.irqOwner? irq with
  | none =>
    refine (rests_of_same ?_ ?_).accounts rfl <;> simp only [perform, hardwareIrq_unowned howner]
    · rfl
    · exact live
  | some owner =>
    have hperform : m.perform (.hardwareIrq irq) =
        (fun y => Reply.ofResult .hostIrq (y.1.map some, y.2)) <$>
          m.withVm owner (raiseOn owner irq) := by
      simp only [perform, hardwareIrq_owned hm howner, raiseIrq, map_eq_pure_bind, bind_assoc,
        pure_bind]
    by_cases hb : b = owner
    · subst hb
      refine accounts_withVm hm.toSound live (keeps_raiseOn irq) rfl hperform
        (fun y => snd_ofResult _ _) (alarms_raiseOn b v irq) ?_
      rw [session_raiseOn]
      exact .raised (by rw [Op.raised?, howner, hid, if_pos rfl])
    · have hmisses := misses_withVm (g := raiseOn owner irq) hm.toSound
        (fun v _ => serves_raiseOn owner v irq) hb
      refine Rests.accounts ?_ rfl
      rw [hperform]
      exact (hmisses.rests live).map fun y => snd_ofResult _ _

theorem accounts_runShell (hm : Settled config m) (live : m.registry.get? b = some v)
    (line : String) : Accounts m b v (.runShell line) := by
  cases hasks : m.asksTimers line with
  | true =>
    refine accounts_of_answers (hm.unfaulted b v live) ?_
    rw [deviceCalls, if_pos hasks]
    exact (answers_runShell hm live hasks).map (snd_ofShell _)
  | false =>
    have hmisses : Misses b m (m.runShell line) := misses_runShell hm fun h => by simp [hasks] at h
    refine ((hmisses.rests live).map (snd_ofShell _)).accounts ?_
    rw [deviceCalls, hasks]
    rfl

theorem rests_of_idle (hidle : op.isIdle = true) (live : m.registry.get? b = some v) :
    Rests b v (m.perform op) :=
  rests_of_same (alarms_of_silent (notes_of_idle hidle m).not_heard)
    (by rw [registry_of_idle hidle, live])

/-- An operation on no session. -/
theorem accounts_shared (hm : Settled config m) (live : m.registry.get? b = some v)
    (hsubject : op.subject? = none) : Accounts m b v op := by
  cases op <;> cases hsubject
  case vmIds | vmForTask | summaries | setIoTrace | ioTrace | advanceClock | now | openModule |
      closeModule | expungeModule | modules | addShellCommands | shellCommands =>
    exact (rests_of_idle rfl live).accounts rfl
  case create =>
    have halive : m.isAlive b = true := by rw [isAlive, Registry.isAlive, live]; rfl
    exact ((misses_create hm (ne_newcomer hm halive)).rests live).accounts rfl
  case releaseIrq irq => exact (((releaseIrq_outcome hm irq).2 b).rests live).accounts rfl
  case timerTick n =>
    exact accounts_of_answers (hm.unfaulted b v live) (answers_timerTick hm.toSound live n)
  case hardwareIrq irq => exact accounts_hardwareIrq hm live irq
  case runShell line => exact accounts_runShell hm live line

/-- **Every operation** tells the watchers of a live session what its calls of the session's devices
say, and makes of the session what they make of it. -/
theorem accounts_perform (hm : Settled config m) (live : m.registry.get? b = some v) (op : Op) :
    Accounts m b v op := by
  cases hsubject : op.subject? with
  | none => exact accounts_shared hm live hsubject
  | some c =>
    by_cases hb : b = c
    · exact accounts_subject hm live (hb ▸ hsubject)
    · have hnone : m.deviceCalls v op = [] := by
        refine deviceCalls_other hsubject fun hc => hb ?_
        rw [hc, hm.named.id_of_get? live]
      by_cases hgrab : ∃ irq, op = .grabIrq c irq
      · obtain ⟨irq, rfl⟩ := hgrab
        exact (((grabIrq_outcome hm c irq).2.1 b).rests live).accounts hnone
      · have hspares := spares_other hm.toSound hsubject hb fun irq h => hgrab ⟨irq, h⟩
        exact (hspares.rests live).accounts hnone

end Monitor
end RealModeMonitor
