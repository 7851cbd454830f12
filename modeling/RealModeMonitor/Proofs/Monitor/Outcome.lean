import RealModeMonitor.Proofs.Monitor.Passing

/-!
# The fate of a session in a run

Every operation leaves a settled monitor settled (`settled_perform`) and decides the fate of every
session (`fate_perform`): a session dies if it is killed, or if an interrupt or a return of its
guest outside memory is told.

**Lifetimes.** A session that lives through a run keeps its arena and gets the steps of its teardown
that the operations register, in order (`course_run`). Of a dead one nothing is heard, as long as
its name is not given again (`dead_run`).
-/

namespace RealModeMonitor.Monitor

open Traced

variable {α : Type} {config : Config} {m : Monitor} {b c id : VmId} {v : Vm} {op : Op}
  {ops : List Op}

/-! ## The four others -/

theorem heard_kill (m : Monitor) (c b : VmId) :
    (m.perform (.kill c)).heard b = (m.bury c).heard b := by
  have hignored : (tell (.killIgnored c)).heard b = [] := heard_tell rfl
  simp only [perform, kill, heard_bind, heard_pure, List.append_nil]
  split
  · exact List.append_nil _
  · simp [hignored]

/-- A session that is killed dies. -/
theorem passes_kill (hm : Settled config m) (c : VmId) :
    Passes config m (m.perform (.kill c)) (fun _ => []) fun b => b = c && m.isAlive b := by
  have hheard : ∀ b, (m.perform (.kill c)).heard b =
      if b = c then heardAtDeath b (m.registry.get? b) else [] := by
    intro b
    rw [heard_kill, heard_bury_eq hm.named]
  refine ⟨hm.toSound.perform _, ?_, fun b => ?_⟩
  · rw [val_perform_kill]
    exact m.thins_bury c
  · have hget := m.get?_kill c b
    have hheard := hheard b
    by_cases hb : b = c
    · rw [if_pos hb] at hget hheard
      rw [decide_eq_true hb, Bool.true_and, isAlive, Registry.isAlive]
      cases before : m.registry.get? b with
      | none =>
        rw [before] at hheard
        exact .dead before hget hheard
      | some v =>
        have hid := hm.named.id_of_get? before
        rw [before] at hheard
        refine .dies before hget ?_
        rw [rites, hheard, ← rites_lastHeard (hm.swept b v before), hid]
        rfl
    · rw [if_neg hb] at hget hheard
      rw [decide_eq_false hb, Bool.false_and]
      exact Misses.fate ⟨hheard, hget⟩ hm

theorem notes_createVm (m : Monitor) : m.createVm.Only Note.IsRemark := by
  unfold createVm
  split
  · exact only_pure _
  · split
    · exact only_pure _
    · refine .bind (ModuleTable.notes_openModule _ _ _) ?_
      dsimp only
      split
      · exact only_pure _
      · exact .bind (only_remark rfl) (only_pure _)

/-- A new session, if there is one. -/
theorem create_cases (hm : Settled config m) :
    (∃ e, (m.perform .create).val = (.failed e, m)) ∨
      ∃ (id : VmId) (memory : Memory) (registry : Registry) (modules : ModuleTable),
        m.registry.create memory m.config.maxIoHandlers = .ok (id, registry) ∧
        (m.perform .create).val = (.vm id, { m with registry, modules }) := by
  obtain ⟨-, hval⟩ | ⟨-, -, id, memory, registry, modules, hcreated, -, hval⟩ :=
    createVm_cases hm.toSound
  · refine .inl ⟨.exhausted .vmSlot, ?_⟩
    rw [perform, hval]
    rfl
  · refine .inr ⟨id, memory, registry, modules, hcreated, ?_⟩
    rw [perform, val_map, hval]
    rfl

theorem misses_create (hm : Settled config m) (hb : (m.perform .create).val.1 ≠ .vm b) :
    Misses b m (m.perform .create) where
  silent := by
    have hnotes : (m.perform .create).Only Note.IsRemark := .bind m.notes_createVm (only_pure _)
    exact hnotes.not_heard
  same := by
    obtain ⟨e, hval⟩ | ⟨id, memory, registry, modules, hcreated, hval⟩ := create_cases hm
    · rw [hval]
    · rw [hval] at hb ⊢
      have hne : b ≠ id := fun heq => hb (heq ▸ rfl)
      show registry.get? b = m.registry.get? b
      rw [Registry.get?_create hm.named hcreated, if_neg hne]

theorem settled_create (hm : Settled config m) : Settled config (m.perform .create).val.2 := by
  have hsound := hm.toSound.perform .create
  obtain ⟨e, hval⟩ | ⟨id, memory, registry, modules, hcreated, hval⟩ := create_cases hm
  all_goals rw [hval] at hsound ⊢
  · exact hm
  · have hget := Registry.get?_create hm.named hcreated
    refine ⟨hsound, fun b v hv => ?_, fun b v hv => ?_, fun irq owner howner => ?_⟩
    · rw [hget] at hv
      split at hv
      · cases hv; rfl
      · exact hm.unfaulted b v hv
    · rw [hget] at hv
      split at hv
      · cases hv; exact Vm.routed_new _ _ _
      · exact hm.routed b v hv
    · have howners : registry.irqOwners = m.registry.irqOwners := by
        obtain ⟨-, rfl⟩ := Registry.create_eq_ok hm.named.size hcreated
        rfl
      have halive := hm.owned irq owner (by rwa [Registry.irqOwner?, howners] at howner)
      show registry.isAlive owner = true
      rw [Registry.isAlive, hget]
      split
      · rfl
      · exact halive

theorem irqOwner?_route (r : Registry) (irq line : UInt8) (owner : Option VmId) :
    (r.route irq owner).2.irqOwner? line =
      if line = irq ∧ irq.toNat < 16 then owner else r.irqOwner? line := by
  unfold Registry.route
  by_cases hlt : irq.toNat < 16
  · have hline : irq.toNat = line.toNat ↔ line = irq := by rw [UInt8.toNat_inj, eq_comm]
    rw [dif_pos hlt]
    simp only [Registry.irqOwner?, Vector.getElem?_set, hline, hlt, and_true]
    split <;> rfl
  · rw [dif_neg hlt, if_neg fun h => hlt h.2]

/-- A host line changes hands. -/
theorem Settled.route (hm : Settled config m) (irq : UInt8) {owner : Option VmId}
    (howner : ∀ id, owner = some id → m.registry.isAlive id = true) :
    Settled config { m with registry := (m.registry.route irq owner).2 } := by
  have hslots := slots_route m.registry irq owner
  have hget := get?_of_slots hslots
  refine ⟨hm.toSound.step (.reroute hslots), fun b v hv => ?_, fun b v hv => ?_,
    fun line id hid => ?_⟩
  · exact hm.unfaulted b v ((hget b).symm.trans hv)
  · exact hm.routed b v ((hget b).symm.trans hv)
  · have halive : m.registry.isAlive id = true := by
      rw [irqOwner?_route] at hid
      split at hid
      · exact howner id hid
      · exact hm.owned line id hid
    exact (congrArg Option.isSome (hget id)).trans halive

/-- A line that is grabbed is one of the sixteen, and was owned by nobody else. -/
theorem grabIrq_cases (m : Monitor) (c : VmId) (irq : UInt8) :
    (∃ e, e.isStray = false ∧ m.grabIrq c irq = pure (.error e, m)) ∨
      (m.isAlive c = true ∧ irq.toNat < 16 ∧
        (∀ owner, m.registry.irqOwner? irq = some owner → owner = c)) ∧
      m.grabIrq c irq = (do
        Traced.tell (.hostIrqGrabbed c irq)
        return (.ok (), { m with registry := (m.registry.route irq (some c)).2 })) := by
  unfold grabIrq
  split
  next halive =>
    split
    · exact .inl ⟨_, rfl, rfl⟩
    next hfree =>
      split
      next => exact .inl ⟨_, rfl, rfl⟩
      next registry hroute =>
        have hline : irq.toNat < 16 := by
          by_contra hline
          rw [Registry.route, dif_neg hline] at hroute
          cases (Prod.mk.inj hroute).1
        have howner : ∀ owner, m.registry.irqOwner? irq = some owner → owner = c := by
          intro owner howner
          simpa [howner] using hfree
        rw [hroute]
        exact .inr ⟨⟨halive, hline, howner⟩, rfl⟩
  · exact .inl ⟨_, rfl, rfl⟩

/-- Giving a host line to another owner does nothing to any session. -/
theorem misses_route {x : Traced (α × Monitor)} {irq : UInt8} {owner : Option VmId} (b : VmId)
    (hval : x.val.2 = { m with registry := (m.registry.route irq owner).2 })
    (hnotes : x.Only Note.IsRemark) : Misses b m x where
  silent := hnotes.not_heard
  same := by
    rw [hval]
    exact get?_of_slots (slots_route m.registry irq owner) b

theorem grabIrq_outcome (hm : Settled config m) (c : VmId) (irq : UInt8) :
    Settled config (m.perform (.grabIrq c irq)).val.2 ∧
      (∀ b, Misses b m (m.perform (.grabIrq c irq))) ∧
      (m.perform (.grabIrq c irq)).val.1.isStray = false := by
  obtain ⟨e, he, hgrab⟩ | ⟨⟨halive, -⟩, hgrab⟩ := m.grabIrq_cases c irq
  all_goals rw [perform, hgrab]
  · exact ⟨hm, fun b => misses_pure b m _, he⟩
  · refine ⟨hm.route irq fun id hid => ?_, fun b => misses_route b rfl ?_, rfl⟩
    · obtain rfl := Option.some.inj hid
      exact halive
    · exact .bind (.bind (only_remark rfl) (only_pure _)) (only_pure _)

theorem releaseIrq_outcome (hm : Settled config m) (irq : UInt8) :
    Settled config (m.perform (.releaseIrq irq)).val.2 ∧
      ∀ b, Misses b m (m.perform (.releaseIrq irq)) :=
  ⟨hm.route irq nofun, fun b => misses_route b rfl (only_pure _)⟩

/-! ## All operations -/

theorem Op.cases_of_passes (h : op.passes = false) :
    op = .create ∨ (∃ id, op = .kill id) ∨ (∃ id irq, op = .grabIrq id irq) ∨
      ∃ irq, op = .releaseIrq irq := by
  cases op <;> cases h <;> simp

/-- **Every operation** leaves a settled monitor settled. -/
theorem settled_perform (hm : Settled config m) (op : Op) :
    Settled config (m.perform op).val.2 := by
  cases hpasses : op.passes with
  | true => exact (passes_perform hm hpasses).settled hm
  | false =>
    obtain rfl | ⟨c, rfl⟩ | ⟨c, irq, rfl⟩ | ⟨irq, rfl⟩ := Op.cases_of_passes hpasses
    · exact settled_create hm
    · exact (passes_kill hm c).settled hm
    · exact (grabIrq_outcome hm c irq).1
    · exact (releaseIrq_outcome hm irq).1

theorem told_of_misses {x : Traced (Reply × Monitor)} (op : Op) (h : Misses b m x)
    (hreply : op.subject? = some b → x.val.1.isStray = false) : told b op x = false := by
  rw [told, strays_of_silent h.silent, Bool.false_or]
  by_cases hsubject : op.subject? = some b
  · rw [hreply hsubject, Bool.and_false]
  · simp [hsubject]

/-- Nothing stray is told at a kill. -/
theorem told_kill (hm : Settled config m) (b c : VmId) :
    told b (.kill c) (m.perform (.kill c)) = false := by
  have hreply : (m.perform (.kill c)).val.1 = .done := rfl
  rw [told, hreply, strays, heard_kill, heard_bury_eq hm.named]
  split
  · cases live : m.registry.get? b with
    | none => simp [heardAtDeath, Reply.isStray]
    | some v =>
      have hlast := strays_lastHeard (hm.swept b v live)
      rw [hm.named.id_of_get? live] at hlast
      simp [heardAtDeath, Reply.isStray, hlast]
  · simp [Reply.isStray]

/-- **Every operation** decides the fate of a session that it does not start. -/
theorem fate_perform (hm : Settled config m) (op : Op)
    (hb : op = .create → (m.perform op).val.1 ≠ .vm b) :
    ∃ ends, Fate b m (m.perform op) (if op.subject? = some b then m.registers op else []) ends ∧
      (m.isAlive b = true → (ends = true ↔ op = .kill b ∨ told b op (m.perform op) = true)) := by
  cases hpasses : op.passes with
  | true =>
    refine ⟨_, (passes_perform hm hpasses).fate b, fun _ => ?_⟩
    have hkill : op ≠ .kill b := by
      rintro rfl
      cases hpasses
    simp [hkill]
  | false =>
    obtain rfl | ⟨c, rfl⟩ | ⟨c, irq, rfl⟩ | ⟨irq, rfl⟩ := Op.cases_of_passes hpasses
    · have hmisses := misses_create hm (hb rfl)
      refine ⟨false, hmisses.fate hm, fun _ => ?_⟩
      rw [told_of_misses .create hmisses nofun]
      simp
    · have hregisters :
          (if (Op.kill c).subject? = some b then m.registers (.kill c) else []) = [] :=
        ite_self []
      rw [hregisters]
      refine ⟨_, (passes_kill hm c).fate b, fun halive => ?_⟩
      · rw [told_kill hm, halive]
        simp [eq_comm]
    · obtain ⟨-, hmisses, hreply⟩ := grabIrq_outcome hm c irq
      have hregisters : (if (Op.grabIrq c irq).subject? = some b
          then m.registers (.grabIrq c irq) else []) = [] := ite_self []
      rw [hregisters]
      refine ⟨false, (hmisses b).fate hm, fun _ => ?_⟩
      rw [told_of_misses (.grabIrq c irq) (hmisses b) fun _ => hreply]
      simp
    · have hmisses := (releaseIrq_outcome hm irq).2 b
      refine ⟨false, hmisses.fate hm, fun _ => ?_⟩
      rw [told_of_misses (.releaseIrq irq) hmisses nofun]
      simp

theorem settled_run (hm : Settled config m) (ops : List Op) :
    Settled config (m.run ops).val.2 := by
  induction ops generalizing m with
  | nil => exact hm
  | cons op ops ih => exact ih (settled_perform hm op)

theorem Reachable.settled (h : Reachable config m) : Settled config m := by
  obtain ⟨m₀, ops, hstart, rfl⟩ := h
  refine settled_run ?_ ops
  have hsound := sound_start hstart
  obtain ⟨-, rfl⟩ := start_eq_ok hstart
  refine ⟨hsound, fun id v hv => ?_, fun id v hv => ?_, fun irq id hid => ?_⟩
  · rw [get?_ofSize] at hv
    cases hv
  · rw [get?_ofSize] at hv
    cases hv
  · simp only [Registry.irqOwner?, Registry.ofSize, Vector.getElem?_replicate] at hid
    split at hid <;> cases hid

/-! ## Lifetimes -/

/-- Whether session `id` lives before and after each of the operations. -/
def livesThrough (id : VmId) (m : Monitor) : List Op → Bool
  | [] => m.isAlive id
  | op :: ops => m.isAlive id && livesThrough id (m.perform op).val.2 ops

/-- The steps that operations add to the teardown of session `id`, in order. -/
def registered (id : VmId) (m : Monitor) : List Op → List KillHandler
  | [] => []
  | op :: ops =>
    (if op.subject? = some id then m.registers op else []) ++ registered id (m.perform op).val.2 ops

/-- The names that replies give to new sessions. -/
def newcomers (replies : List Reply) : List VmId :=
  replies.filterMap fun
    | .vm id => some id
    | _ => none

/-- A name that is alive is not given to a new session. -/
theorem ne_newcomer (hm : Settled config m) (halive : m.isAlive id = true) :
    (m.perform .create).val.1 ≠ .vm id := by
  obtain ⟨e, hval⟩ | ⟨other, memory, registry, modules, hcreated, hval⟩ := create_cases hm
  all_goals rw [hval]
  · nofun
  · intro heq
    obtain rfl := Reply.vm.inj heq
    rw [isAlive, Registry.isAlive, Registry.get?_of_create hm.named hcreated rfl] at halive
    cases halive

theorem newcomers_run_cons (m : Monitor) (op : Op) (ops : List Op) :
    newcomers (m.run (op :: ops)).val.1 =
      newcomers [(m.perform op).val.1] ++ newcomers ((m.perform op).val.2.run ops).val.1 := by
  rw [val_run_cons, newcomers, newcomers, newcomers, ← List.filterMap_append, List.singleton_append]

theorem ne_of_not_newcomer {r : Reply} (h : id ∉ newcomers [r]) : r ≠ .vm id := by
  rintro rfl
  exact h (List.mem_singleton_self id)

theorem rites_run_cons (m : Monitor) (op : Op) (ops : List Op) (id : VmId) :
    (m.run (op :: ops)).rites id =
      (m.perform op).rites id ++ ((m.perform op).val.2.run ops).rites id := by
  simp only [run, rites_bind, rites_pure, List.append_nil]

theorem heard_run_cons (m : Monitor) (op : Op) (ops : List Op) (id : VmId) :
    (m.run (op :: ops)).heard id =
      (m.perform op).heard id ++ ((m.perform op).val.2.run ops).heard id := by
  simp only [run, heard_bind, heard_pure, List.append_nil]

/-- **The course of a session** that lives through a run. -/
theorem course_run (hm : Settled config m) (hlives : livesThrough id m ops = true) :
    ∃ v v', m.registry.get? id = some v ∧ (m.run ops).val.2.registry.get? id = some v' ∧
      v.Course (registered id m ops) v' ∧ (m.run ops).rites id = [] := by
  induction ops generalizing m with
  | nil =>
    obtain ⟨v, hv⟩ := Option.isSome_iff_exists.1 hlives
    exact ⟨v, v, hv, hv, .refl v, rfl⟩
  | cons op ops ih =>
    obtain ⟨halive, hlives⟩ := Bool.and_eq_true_iff.1 hlives
    obtain ⟨v₁, v', hv₁, hv', hcourse', hrites'⟩ := ih (settled_perform hm op) hlives
    obtain ⟨ends, hfate, -⟩ := fate_perform hm op fun hop => hop ▸ ne_newcomer hm halive
    obtain ⟨v, hv, hcourse, -, hrites⟩ := hfate.of_alive hv₁
    refine ⟨v, v', hv, hv', hcourse.trans hcourse', ?_⟩
    rw [rites_run_cons, hrites, hrites']
    rfl

/-- **Of the dead** nothing is heard, and nothing is registered on them. -/
theorem dead_run (hm : Settled config m) (hdead : m.registry.get? id = none)
    (hnew : id ∉ newcomers (m.run ops).val.1) :
    (m.run ops).heard id = [] ∧ registered id m ops = [] := by
  induction ops generalizing m with
  | nil => exact ⟨rfl, rfl⟩
  | cons op ops ih =>
    rw [newcomers_run_cons, List.mem_append, not_or] at hnew
    obtain ⟨_, hfate, -⟩ := fate_perform hm op fun _ => ne_of_not_newcomer hnew.1
    obtain ⟨hafter, hsilent, hnone⟩ := hfate.of_dead hdead
    obtain ⟨hsilent', hnone'⟩ := ih (settled_perform hm op) hafter hnew.2
    refine ⟨?_, ?_⟩
    · rw [heard_run_cons, hsilent, hsilent']
      rfl
    · rw [registered, hnone, hnone']
      rfl

end RealModeMonitor.Monitor
