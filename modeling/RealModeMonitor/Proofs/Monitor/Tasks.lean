import RealModeMonitor.Proofs.Monitor.Answers

/-!
# Host tasks

**Theorem (`host_tasks`).** A task leads to a session that was bound to it last, that is, that was
bound to it, lives, and was not bound again since. If several sessions were, it leads to the one in
the lowest slot, which need not be the one that was bound last of all (`bindTask_not_found`).

Binding is kept by the session and not by the task, and nothing but binding it changes the task of a
session that lives on (`sameTask_perform`). So the sessions of a task are found by going back to
where they were bound to it (`taskOf?_run`), and the search goes through them slot by slot
(`forTask?_eq_some_iff`).
-/

namespace RealModeMonitor

open Traced

/-! ## Sessions of a task -/

namespace Registry

variable {r : Registry} {id other : VmId} {task : UInt32} {v w : Vm}

/-- The task that a live session is bound to. -/
def taskOf? (r : Registry) (id : VmId) : Option UInt32 := (r.get? id).bind Vm.task

theorem taskOf?_eq_some_iff :
    r.taskOf? id = some task ↔ ∃ v, r.get? id = some v ∧ v.task = some task :=
  Option.bind_eq_some_iff

/-- One session lives in a slot. -/
theorem eq_of_slot_eq (h : r.get? id = some v) (h' : r.get? other = some w)
    (hslot : id.slot = other.slot) : id = other := by
  have hid := get?_eq_some_iff.1 h
  rw [hslot, get?_eq_some_iff.1 h'] at hid
  exact VmId.ext hslot (Slot.mk.inj (Option.some.inj hid)).1.symm

theorem WellNamed.pairwise_vms (h : r.WellNamed) :
    r.vms.Pairwise fun v w => v.id.slot < w.id.slot := by
  have hids := h.pairwise_ids
  rwa [ids, List.pairwise_map] at hids

/-- A task is found in the first of the slots whose sessions are bound to it. -/
theorem WellNamed.forTask?_first (h : r.WellNamed) (hfind : r.forTask? task = some id) :
    r.taskOf? id = some task ∧ ∀ other, r.taskOf? other = some task → id.slot ≤ other.slot := by
  obtain ⟨v, hv, rfl⟩ := Option.map_eq_some_iff.1 hfind
  obtain ⟨htask, before, after, hvms, hbefore⟩ := List.find?_eq_some_iff_append.1 hv
  have hmem : v ∈ r.vms := List.mem_of_find?_eq_some hv
  refine ⟨taskOf?_eq_some_iff.2 ⟨v, h.get?_eq_some_iff_mem.2 ⟨hmem, rfl⟩, of_decide_eq_true htask⟩,
    fun other hother => ?_⟩
  obtain ⟨w, hw, hwtask⟩ := taskOf?_eq_some_iff.1 hother
  obtain ⟨hwmem, rfl⟩ := h.get?_eq_some_iff_mem.1 hw
  have hordered := h.pairwise_vms
  rw [hvms] at hwmem hordered
  rcases List.mem_append.1 hwmem with hw | hw
  · have hnot := hbefore w hw
    simp [hwtask] at hnot
  · rcases List.mem_cons.1 hw with rfl | hw
    · exact UInt16.le_refl _
    · exact UInt16.le_of_lt ((List.pairwise_cons.1 (List.pairwise_append.1 hordered).2.1).1 w hw)

theorem WellNamed.forTask?_eq_some_iff (h : r.WellNamed) : r.forTask? task = some id ↔
    r.taskOf? id = some task ∧ ∀ other, r.taskOf? other = some task → id.slot ≤ other.slot := by
  refine ⟨h.forTask?_first, fun ⟨hid, hleast⟩ => ?_⟩
  obtain ⟨v, hv, htask⟩ := taskOf?_eq_some_iff.1 hid
  have hsome : (r.forTask? task).isSome = true := by
    rw [forTask?, Option.isSome_map, List.find?_isSome]
    exact ⟨v, (h.get?_eq_some_iff_mem.1 hv).1, decide_eq_true htask⟩
  obtain ⟨first, hfirst⟩ := Option.isSome_iff_exists.1 hsome
  obtain ⟨hbound, hfirst'⟩ := h.forTask?_first hfirst
  obtain ⟨w, hw, -⟩ := taskOf?_eq_some_iff.1 hbound
  rw [hfirst, eq_of_slot_eq hw hv (UInt16.le_antisymm (hfirst' id hid) (hleast first hbound))]

theorem WellNamed.forTask?_eq_none_iff (h : r.WellNamed) :
    r.forTask? task = none ↔ ∀ id, r.taskOf? id ≠ some task := by
  rw [forTask?, Option.map_eq_none_iff, List.find?_eq_none]
  constructor
  · intro hnone id hid
    obtain ⟨v, hv, htask⟩ := taskOf?_eq_some_iff.1 hid
    exact hnone v (h.get?_eq_some_iff_mem.1 hv).1 (decide_eq_true htask)
  · intro hnone v hv htask
    have hget := h.get?_eq_some_iff_mem.2 ⟨hv, rfl⟩
    exact hnone v.id (taskOf?_eq_some_iff.2 ⟨v, hget, of_decide_eq_true htask⟩)

end Registry

/-! ## What keeps the task of a session -/

namespace Vm

variable {v v' : Vm}

theorem task_answer (v : Vm) (k : Clock) (c : Call) : (v.answer k c).val.task = v.task := by
  rw [answer_eq]
  split
  · rfl
  · simp only [val_bind, val_pure, settle]
    split <;> rfl

theorem task_answerAll (v : Vm) (k : Clock) (calls : List Call) :
    (v.answerAll k calls).val.task = v.task := by
  induction calls generalizing v with
  | nil => rfl
  | cons c calls ih => exact (ih _).trans (v.task_answer k c)

theorem task_raise (v : Vm) (line : UInt8) : (v.raise line).val.2.task = v.task := by
  unfold raise
  split <;> rfl

theorem task_deliver (v : Vm) : v.deliver.val.2.task = v.task := by
  unfold deliver
  split <;> rfl

theorem Edited.task (h : v.Edited v') : v'.task = v.task := by
  cases h <;> rfl

end Vm

namespace Monitor

variable {α β : Type} {config : Config} {m m₀ : Monitor} {b c id : VmId} {v v' : Vm} {op : Op}
  {ops : List Op} {clock : Clock} {ioTrace : Bool} {work : Work} {task : UInt32}

theorem task_timerWork (g : α → Reply) (f : IntervalTimer → Except MonitorError α) :
    (timerWork clock id g f v).val.2.task = v.task := by
  rw [session_timerWork, Vm.syncTimer_eq]
  exact v.task_answerAll clock _

theorem task_work (h : op.work? clock ioTrace = some (b, work)) (hbind : ∀ t, op ≠ .bindTask b t)
    (v : Vm) : (work v).val.2.task = v.task := by
  refine if hedits : op.edits = true then (edited_work h hedits).task else ?_
  cases op <;> cases h
  case addIoHandler | addService | watchTimer | setDmaProgram => exact absurd rfl hedits
  case bindTask t => exact absurd rfl (hbind t)
  case addKillHandler | disableInterrupts | setResumable | controller | dmaProgram |
      dispatchService | interrupt | withGuest =>
    rfl
  case ioIn port operand =>
    have hread := v.task_answerAll clock (v.io.reads port operand.width)
    rw [← Vm.readBytes_eq, val_map] at hread
    cases ioTrace <;> exact hread
  case ioOut port operand =>
    have hwrite := v.task_answerAll clock (v.io.writes port operand.bytes)
    rw [← Vm.writeBytes_eq, val_map] at hwrite
    cases ioTrace <;> exact hwrite
  case raiseIrq line =>
    show (raiseOn b line v).val.2.task = v.task
    rw [session_raiseOn]
    exact v.task_raise line
  case enableInterrupts => exact Vm.task_deliver _
  case guestIret =>
    simp only [Work.replying, val_bind, val_pure]
    split
    · rfl
    next guest _ => exact Vm.task_deliver { v with guest }
  case timerChannel | timerChannels => exact task_timerWork _ _

/-! ## One operation -/

theorem lasting_task : Lasting fun v v' => v'.task = v.task where
  refl _ := rfl
  trans h h' := h'.trans h
  attached _ _ := rfl
  installed v d := by
    obtain ⟨io, -, hinstall⟩ | ⟨e, io, -, hinstall⟩ := v.install_cases d
    all_goals rw [hinstall]; rfl
  io _ _ := rfl
  services _ _ := rfl

/-- If session `b` lives on, it has the task of `v`. -/
def SameTask (b : VmId) (v : Vm) (x : Traced (α × Monitor)) : Prop :=
  ∀ v', x.val.2.registry.get? b = some v' → v'.task = v.task

theorem LivesOn.sameTask {x : Traced (α × Monitor)}
    (hx : LivesOn (fun v v' => v'.task = v.task) b v x) : SameTask b v x := by
  obtain ⟨v', live, htask⟩ := hx
  intro v'' live'
  obtain rfl := Option.some.inj (live.symm.trans live')
  exact htask

theorem sameTask_of_same {x : Traced (α × Monitor)} (hsame : x.val.2.registry.get? b = some v) :
    SameTask b v x :=
  (lasting_task.livesOn_of_same hsame).sameTask

theorem Misses.sameTask {x : Traced (α × Monitor)} (hx : Misses b m x)
    (live : m.registry.get? b = some v) : SameTask b v x :=
  sameTask_of_same (hx.same.trans live)

theorem sameTask_of_survivor {x : Traced (α × Monitor)}
    (hx : x.val.2.registry.get? b = survivor v') (htask : v'.task = v.task) : SameTask b v x := by
  intro v'' live
  rw [hx, survivor] at live
  split at live
  · cases live
  · obtain rfl := Option.some.inj live
    exact htask

theorem sameTask_withVm {f : Vm → Traced (Except MonitorError α × Vm)}
    (live : m.registry.get? b = some v) (h : (f v).val.2.task = v.task) (c : VmId) :
    SameTask b v (m.withVm c f) := by
  by_cases hb : b = c
  · subst hb
    refine sameTask_of_survivor ?_ h
    rw [get?_withVm, if_pos rfl, live, Option.bind_some]
  · refine sameTask_of_same ?_
    rw [get?_withVm, if_neg hb, live]

theorem SameTask.map {x : Traced (α × Monitor)} (hx : SameTask b v x)
    {f : α × Monitor → β × Monitor} (hf : ∀ y, (f y).2 = y.2) : SameTask b v (f <$> x) := by
  rwa [SameTask, val_map, hf]

/-- An operation on the session. -/
theorem sameTask_subject (hm : Settled config m) (live : m.registry.get? b = some v)
    (hsubject : op.subject? = some b) (hbind : ∀ t, op ≠ .bindTask b t) :
    SameTask b v (m.perform op) := by
  cases hwork : op.work? m.clock m.ioTrace with
  | some found =>
    obtain ⟨c, work⟩ := found
    obtain rfl : c = b := Option.some.inj ((subject?_of_work hwork).symm.trans hsubject)
    rw [perform_work hwork, onSession_eq_withVm]
    exact (sameTask_withVm live (task_work hwork hbind v) c).map (snd_ofResult _)
  | none =>
    by_cases hkill : op = .kill b
    · subst hkill
      intro v' live'
      rw [get?_kill, if_pos rfl] at live'
      cases live'
    · exact (lasting_task.livesOn_aside hm live hsubject hwork hkill).sameTask

theorem sameTask_hardwareIrq (hm : Settled config m) (live : m.registry.get? b = some v)
    (irq : UInt8) : SameTask b v (m.perform (.hardwareIrq irq)) := by
  refine SameTask.map ?_ (snd_ofResult _)
  cases howner : m.registry.irqOwner? irq with
  | none =>
    rw [hardwareIrq_unowned howner]
    exact sameTask_of_same live
  | some owner =>
    rw [hardwareIrq_owned hm howner]
    refine (sameTask_withVm live ?_ owner).map fun _ => rfl
    rw [session_raiseOn]
    exact v.task_raise irq

theorem sameTask_runShell (hm : Settled config m) (live : m.registry.get? b = some v)
    (line : String) : SameTask b v (m.perform (.runShell line)) := by
  refine SameTask.map ?_ (snd_ofShell _)
  cases hasks : m.asksTimers line with
  | true => exact sameTask_of_survivor (answers_runShell hm live hasks).after (v.task_answerAll _ _)
  | false =>
    have hmisses : Misses b m (m.runShell line) := misses_runShell hm fun h => by simp [hasks] at h
    exact hmisses.sameTask live

/-- An operation on no session. -/
theorem sameTask_shared (hm : Settled config m) (live : m.registry.get? b = some v)
    (hsubject : op.subject? = none) : SameTask b v (m.perform op) := by
  cases op <;> cases hsubject
  case vmIds | vmForTask | summaries | setIoTrace | ioTrace | advanceClock | now | openModule |
      closeModule | expungeModule | modules | addShellCommands | shellCommands =>
    exact sameTask_of_same (by rw [registry_of_idle rfl, live])
  case create =>
    have halive : m.isAlive b = true := by rw [isAlive, Registry.isAlive, live]; rfl
    exact (misses_create hm (ne_newcomer hm halive)).sameTask live
  case releaseIrq irq => exact ((releaseIrq_outcome hm irq).2 b).sameTask live
  case timerTick n =>
    refine sameTask_of_survivor (answers_timerTick hm.toSound live n).after ?_
    exact v.task_answerAll _ _
  case hardwareIrq irq => exact sameTask_hardwareIrq hm live irq
  case runShell line => exact sameTask_runShell hm live line

/-- **The task of a session** is changed by nothing but binding the session. -/
theorem sameTask_perform (hm : Settled config m) (live : m.registry.get? b = some v)
    (hbind : ∀ t, op ≠ .bindTask b t) : SameTask b v (m.perform op) := by
  cases hsubject : op.subject? with
  | none => exact sameTask_shared hm live hsubject
  | some c =>
    by_cases hb : b = c
    · exact sameTask_subject hm live (hb ▸ hsubject) hbind
    · by_cases hgrab : ∃ irq, op = .grabIrq c irq
      · obtain ⟨irq, rfl⟩ := hgrab
        exact ((grabIrq_outcome hm c irq).2.1 b).sameTask live
      · have hspares := spares_other hm.toSound hsubject hb fun irq h => hgrab ⟨irq, h⟩
        exact sameTask_of_same ((congrArg View.session hspares.after).trans live)

/-- Who starts is bound to no task. -/
theorem task_of_newcomer (hm : Settled config m) (dead : m.registry.get? b = none)
    (live : (m.perform op).val.2.registry.get? b = some v) : v.task = none := by
  have contradictory {x : Traced (Reply × Monitor)} (hx : x.val.2.registry.get? b = none)
      (live : x.val.2.registry.get? b = some v) : v.task = none := by
    cases hx.symm.trans live
  cases hpasses : op.passes with
  | true => exact contradictory (((passes_perform hm hpasses).fate b).of_dead dead).1 live
  | false =>
    obtain rfl | ⟨c, rfl⟩ | ⟨c, irq, rfl⟩ | ⟨irq, rfl⟩ := Op.cases_of_passes hpasses
    · obtain ⟨e, hval⟩ | ⟨id, memory, registry, modules, hcreated, hval⟩ := create_cases hm
      all_goals rw [hval] at live
      · cases dead.symm.trans live
      · have hget : registry.get? b = some v := live
        rw [Registry.get?_create hm.named hcreated] at hget
        split at hget
        · obtain rfl := Option.some.inj hget
          rfl
        · cases dead.symm.trans hget
    · exact contradictory (((passes_kill hm c).fate b).of_dead dead).1 live
    · exact contradictory ((((grabIrq_outcome hm c irq).2.1 b).same).trans dead) live
    · exact contradictory ((((releaseIrq_outcome hm irq).2 b).same).trans dead) live

/-- A session that is not bound keeps its task as long as it lives. -/
theorem taskOf?_perform_of_unbound (hm : Settled config m) (hbind : ∀ t, op ≠ .bindTask id t) :
    (m.perform op).val.2.registry.taskOf? id = some task ↔
      m.registry.taskOf? id = some task ∧ (m.perform op).val.2.isAlive id = true := by
  rw [isAlive, Registry.isAlive, Option.isSome_iff_exists, Registry.taskOf?_eq_some_iff,
    Registry.taskOf?_eq_some_iff]
  constructor
  · rintro ⟨v', live', htask⟩
    cases before : m.registry.get? id with
    | none =>
      rw [task_of_newcomer hm before live'] at htask
      cases htask
    | some v => exact ⟨⟨v, rfl, sameTask_perform hm before hbind v' live' ▸ htask⟩, v', live'⟩
  · rintro ⟨⟨v, live, htask⟩, v', live'⟩
    exact ⟨v', live', (sameTask_perform hm live hbind v' live').trans htask⟩

theorem perform_bindTask_dead (dead : m.registry.get? id = none) (task : UInt32) :
    m.perform (.bindTask id task) = pure (.failed (.noSuchVm id), m) := by
  have hperform : m.perform (.bindTask id task) = m.onSession id _ := perform_work rfl
  rw [hperform, onSession, dead]

theorem perform_bindTask_live (hm : Settled config m) (live : m.registry.get? id = some v)
    (task : UInt32) : m.perform (.bindTask id task) =
      pure (.done, { m with registry := m.registry.set id { v with task := some task } }) := by
  have hperform : m.perform (.bindTask id task) = m.onSession id _ := perform_work rfl
  rw [hperform]
  simp [onSession, live, Work.updating, hm.unfaulted id v live]

/-- **The task of a session** after an operation. -/
theorem taskOf?_perform (hm : Settled config m) (op : Op) (id : VmId) (task : UInt32) :
    (m.perform op).val.2.registry.taskOf? id = some task ↔
      op = .bindTask id task ∧ (m.perform op).val.1 = .done ∨
        m.registry.taskOf? id = some task ∧ (∀ t, op ≠ .bindTask id t) ∧
          (m.perform op).val.2.isAlive id = true := by
  by_cases hbind : ∃ t, op = .bindTask id t
  · obtain ⟨t, rfl⟩ := hbind
    cases live : m.registry.get? id with
    | none =>
      have hnone : m.registry.taskOf? id = none := by rw [Registry.taskOf?, live]; rfl
      rw [perform_bindTask_dead live]
      simp [hnone]
    | some v =>
      rw [perform_bindTask_live hm live]
      simp [Registry.taskOf?, Registry.get?_set live]
  · have hunbound : ∀ t, op ≠ .bindTask id t := fun t h => hbind ⟨t, h⟩
    rw [taskOf?_perform_of_unbound hm hunbound]
    simp [hunbound]

/-! ## Runs -/

/-- Session `id` keeps its task: it lives on and is not bound. -/
structure KeepsTask (id : VmId) (m : Monitor) (ops : List Op) : Prop where
  lives : livesThrough id m ops = true
  unbound : ∀ t, .bindTask id t ∉ ops

theorem KeepsTask.isAlive (h : KeepsTask id m ops) : m.isAlive id = true := by
  cases ops with
  | nil => exact h.lives
  | cons op ops => exact (Bool.and_eq_true_iff.1 h.lives).1

theorem keepsTask_nil : KeepsTask id m [] ↔ m.isAlive id = true :=
  ⟨fun h => h.isAlive, fun h => ⟨h, by simp⟩⟩

theorem keepsTask_cons : KeepsTask id m (op :: ops) ↔
    (m.isAlive id = true ∧ ∀ t, op ≠ .bindTask id t) ∧ KeepsTask id (m.perform op).val.2 ops := by
  constructor
  · rintro ⟨hlives, hunbound⟩
    obtain ⟨halive, hlives⟩ := Bool.and_eq_true_iff.1 hlives
    exact ⟨⟨halive, fun t h => hunbound t (h ▸ List.mem_cons_self)⟩, hlives,
      fun t h => hunbound t (List.mem_cons_of_mem _ h)⟩
  · rintro ⟨⟨halive, hop⟩, hlives, hunbound⟩
    refine ⟨Bool.and_eq_true_iff.2 ⟨halive, hlives⟩, fun t h => ?_⟩
    rcases List.mem_cons.1 h with h | h
    · exact hop t h.symm
    · exact hunbound t h

/-- In a run session `id` is bound to the task, and then keeps it. -/
def BoundLast (task : UInt32) (id : VmId) (m : Monitor) (ops : List Op) : Prop :=
  ∃ before after, ops = before ++ .bindTask id task :: after ∧
    ((m.run before).val.2.perform (.bindTask id task)).val.1 = .done ∧
    KeepsTask id ((m.run before).val.2.perform (.bindTask id task)).val.2 after

theorem boundLast_cons : BoundLast task id m (op :: ops) ↔
    BoundLast task id (m.perform op).val.2 ops ∨
      (op = .bindTask id task ∧ (m.perform op).val.1 = .done) ∧
        KeepsTask id (m.perform op).val.2 ops := by
  constructor
  · rintro ⟨_ | ⟨first, before⟩, after, hops, hdone, hkeeps⟩
    · obtain ⟨rfl, rfl⟩ := List.cons.inj hops
      exact .inr ⟨⟨rfl, hdone⟩, hkeeps⟩
    · obtain ⟨rfl, rfl⟩ := List.cons.inj hops
      rw [val_run_cons] at hdone hkeeps
      exact .inl ⟨before, after, rfl, hdone, hkeeps⟩
  · rintro (⟨before, after, rfl, hdone, hkeeps⟩ | ⟨⟨rfl, hdone⟩, hkeeps⟩)
    · exact ⟨op :: before, after, rfl, by rwa [val_run_cons], by rwa [val_run_cons]⟩
    · exact ⟨[], ops, rfl, hdone, hkeeps⟩

/-- **The task of a session** after a run. -/
theorem taskOf?_run (hm : Settled config m) (ops : List Op) (id : VmId) (task : UInt32) :
    (m.run ops).val.2.registry.taskOf? id = some task ↔
      BoundLast task id m ops ∨ m.registry.taskOf? id = some task ∧ KeepsTask id m ops := by
  have halive {m : Monitor} (htask : m.registry.taskOf? id = some task) : m.isAlive id = true := by
    obtain ⟨v, live, -⟩ := Registry.taskOf?_eq_some_iff.1 htask
    exact Option.isSome_iff_exists.2 ⟨v, live⟩
  induction ops generalizing m with
  | nil =>
    constructor
    · exact fun htask => .inr ⟨htask, keepsTask_nil.2 (halive htask)⟩
    · rintro (⟨before, after, hops, -⟩ | ⟨htask, -⟩)
      · simp at hops
      · exact htask
  | cons op ops ih =>
    rw [val_run_cons, boundLast_cons, keepsTask_cons]
    refine (ih (settled_perform hm op)).trans ?_
    rw [taskOf?_perform hm op id task, or_and_right, or_assoc]
    refine or_congr_right (or_congr_right ⟨?_, ?_⟩)
    · rintro ⟨⟨htask, hunbound, -⟩, hkeeps⟩
      exact ⟨htask, ⟨halive htask, hunbound⟩, hkeeps⟩
    · rintro ⟨htask, ⟨-, hunbound⟩, hkeeps⟩
      exact ⟨⟨htask, hunbound, hkeeps.isAlive⟩, hkeeps⟩

theorem taskOf?_start (hstart : (start config).val = .ok m₀) (ops : List Op) (id : VmId)
    (task : UInt32) :
    (m₀.run ops).val.2.registry.taskOf? id = some task ↔ BoundLast task id m₀ ops := by
  have hm : Settled config m₀ := Reachable.settled ⟨m₀, [], hstart, rfl⟩
  refine (taskOf?_run hm ops id task).trans (or_iff_left ?_)
  rintro ⟨htask, -⟩
  obtain ⟨-, rfl⟩ := start_eq_ok hstart
  rw [Registry.taskOf?, get?_ofSize] at htask
  cases htask

/-! ## The theorem -/

/-- **Host tasks** after any operations from a start on. A task leads to a session that was last
bound to it, and to the one in the lowest slot if there are several. -/
theorem host_tasks (hstart : (start config).val = .ok m₀) (ops : List Op) (task : UInt32) :
    (∀ id, (m₀.run ops).val.2.vmForTask? task = some id ↔
      BoundLast task id m₀ ops ∧ ∀ other, BoundLast task other m₀ ops → id.slot ≤ other.slot) ∧
    ((m₀.run ops).val.2.vmForTask? task = none ↔ ∀ id, ¬BoundLast task id m₀ ops) := by
  have hnamed : (m₀.run ops).val.2.registry.WellNamed :=
    (Reachable.settled ⟨m₀, ops, hstart, rfl⟩).named
  simp only [← taskOf?_start hstart]
  exact ⟨fun id => hnamed.forTask?_eq_some_iff, hnamed.forTask?_eq_none_iff⟩

/-- Two sessions are bound to one task. -/
def boundTwice : List Op :=
  let a : VmId := ⟨0, 0⟩
  let b : VmId := ⟨1, 0⟩
  [.create, .create, .bindTask a 7, .bindTask b 7]

/-- The task leads to the first one until that dies, though the second one was bound later. -/
theorem host_tasks_boundTwice :
    let m₀ := started { guestMemory := 0x500 }
    let a : VmId := ⟨0, 0⟩
    let b : VmId := ⟨1, 0⟩
    ((m₀.run boundTwice).val.2.vmForTask? 7 = some a ∧ BoundLast 7 a m₀ boundTwice ∧
      ∀ other, BoundLast 7 other m₀ boundTwice → a.slot ≤ other.slot) ∧
    (m₀.run (boundTwice ++ [.kill a])).val.2.vmForTask? 7 = some b ∧
      BoundLast 7 b m₀ (boundTwice ++ [.kill a]) := by
  intro m₀ a b
  have hstart : (start { guestMemory := 0x500 }).val = .ok m₀ := rfl
  obtain ⟨hboth, -⟩ := host_tasks hstart boundTwice 7
  obtain ⟨hleft, -⟩ := host_tasks hstart (boundTwice ++ [.kill a]) 7
  have ha : (m₀.run boundTwice).val.2.vmForTask? 7 = some a := by cbv
  have hb : (m₀.run (boundTwice ++ [.kill a])).val.2.vmForTask? 7 = some b := by cbv
  exact ⟨⟨ha, (hboth a).1 ha⟩, hb, ((hleft b).1 hb).1⟩

/-- A task need not lead to the session that was bound to it last, not even at once. -/
theorem bindTask_not_found : ¬∀ (config : Config) (m₀ : Monitor) (ops : List Op) (id : VmId)
    (task : UInt32), (start config).val = .ok m₀ →
    ((m₀.run ops).val.2.perform (.bindTask id task)).val.1 = .done →
    ((m₀.run ops).val.2.perform (.bindTask id task)).val.2.vmForTask? task = some id := by
  intro hclaim
  let m₀ := started { guestMemory := 0x500 }
  let a : VmId := ⟨0, 0⟩
  let b : VmId := ⟨1, 0⟩
  let ops : List Op := [.create, .create, .bindTask a 7]
  have hdone : ((m₀.run ops).val.2.perform (.bindTask b 7)).val.1 = .done := by cbv
  have hfirst : ((m₀.run ops).val.2.perform (.bindTask b 7)).val.2.vmForTask? 7 = some a := by cbv
  have hlast := hclaim { guestMemory := 0x500 } m₀ ops b 7 rfl hdone
  have hne : a ≠ b := by decide
  exact hne (Option.some.inj (hfirst.symm.trans hlast))

end Monitor
end RealModeMonitor
