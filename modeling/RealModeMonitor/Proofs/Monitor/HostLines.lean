import RealModeMonitor.Proofs.Monitor.Teardown

/-!
# Host lines

**Theorem (`host_lines`).** A host interrupt is an interrupt on the session that owns the line, and
on no session if nobody owns it. The owner is the session that grabbed the line last, as long as the
line was not released and the session did not die.

An operation gives a line to another owner, or leaves it with its owner as long as that lives
(`irqOwner?_perform`). So an owner is found by going back to where the line was given to it
(`irqOwner?_run`). A line that is owned is not given to another session (`irqOwner?_grabIrq`).
-/

namespace RealModeMonitor.Monitor

open Traced

variable {config : Config} {m m₀ : Monitor} {id other : VmId} {irq line : UInt8} {op : Op}
  {ops : List Op}

/-! ## One operation -/

/-- The session that an operation gives a line to. -/
def grantee? (irq : UInt8) (m : Monitor) (op : Op) : Option VmId :=
  match op, (m.perform op).val.1 with
  | .grabIrq id line, .done => if line = irq then some id else none
  | _, _ => none

/-- The sessions that a line is given to in a run, in order. -/
def grantees (irq : UInt8) (m : Monitor) : List Op → List VmId
  | [] => []
  | op :: ops => (grantee? irq m op).toList ++ grantees irq (m.perform op).val.2 ops

theorem grantee?_eq_some_iff :
    grantee? irq m op = some id ↔ op = .grabIrq id irq ∧ (m.perform op).val.1 = .done := by
  unfold grantee?
  split
  next c line hdone =>
    by_cases hline : line = irq
    · subst hline
      rw [if_pos rfl, Option.some.injEq]
      constructor
      · rintro rfl
        exact ⟨rfl, hdone⟩
      · exact fun h => (Op.grabIrq.inj h.1).1
    · simp [hline]
  next h =>
    constructor
    · intro hgrant
      cases hgrant
    · rintro ⟨rfl, hdone⟩
      exact absurd hdone (h id irq rfl)

theorem val_perform_grabIrq (m : Monitor) (c : VmId) (line : UInt8) :
    (∃ e, (m.perform (.grabIrq c line)).val = (.failed e, m)) ∨
      (m.isAlive c = true ∧ line.toNat < 16 ∧
        (∀ owner, m.registry.irqOwner? line = some owner → owner = c)) ∧
      (m.perform (.grabIrq c line)).val =
        (.done, { m with registry := (m.registry.route line (some c)).2 }) := by
  obtain ⟨e, -, hgrab⟩ | ⟨hfree, hgrab⟩ := m.grabIrq_cases c line
  all_goals rw [perform, val_map, hgrab]
  · exact .inl ⟨e, rfl⟩
  · exact .inr ⟨hfree, rfl⟩

/-- Owners live, so a line that keeps its owner keeps one that lives. -/
theorem Settled.irqOwner?_of_same (hm : Settled config m) {r : Registry}
    (howner : r.irqOwner? irq = m.registry.irqOwner? irq)
    (halive : ∀ id, m.isAlive id = true → r.isAlive id = true) :
    r.irqOwner? irq = (m.registry.irqOwner? irq).filter r.isAlive := by
  rw [howner]
  cases h : m.registry.irqOwner? irq with
  | none => rfl
  | some id => rw [Option.filter_some, halive id (hm.owned irq id h), if_pos rfl]

theorem isAlive_route (r : Registry) (line : UInt8) (owner : Option VmId) (id : VmId) :
    (r.route line owner).2.isAlive id = r.isAlive id :=
  congrArg Option.isSome (get?_of_slots (slots_route r line owner) id)

/-- Where a line is not given to anybody, its owner keeps it as long as it lives. -/
theorem irqOwner?_filter (hm : Settled config m) (hgrab : grantee? irq m op = none)
    (hrelease : op ≠ .releaseIrq irq) :
    (m.perform op).val.2.registry.irqOwner? irq =
      (m.registry.irqOwner? irq).filter (m.perform op).val.2.isAlive := by
  cases hpasses : op.passes with
  | true => exact hm.irqOwner?_of_thins (passes_perform hm hpasses).thins irq
  | false =>
    obtain rfl | ⟨c, rfl⟩ | ⟨c, line, rfl⟩ | ⟨line, rfl⟩ := Op.cases_of_passes hpasses
    · obtain ⟨e, hval⟩ | ⟨newcomer, memory, registry, modules, hcreated, hval⟩ := create_cases hm
      all_goals rw [hval]
      · exact hm.irqOwner?_of_same rfl fun _ halive => halive
      · refine hm.irqOwner?_of_same ?_ fun id halive => ?_
        · obtain ⟨-, rfl⟩ := Registry.create_eq_ok hm.named.size hcreated
          rfl
        · show registry.isAlive id = true
          rw [Registry.isAlive, Registry.get?_create hm.named hcreated]
          split
          · rfl
          · exact halive
    · exact hm.irqOwner?_of_thins (passes_kill hm c).thins irq
    · obtain ⟨e, hval⟩ | ⟨-, hval⟩ := m.val_perform_grabIrq c line
      · rw [hval]
        exact hm.irqOwner?_of_same rfl fun _ halive => halive
      · have hline : line ≠ irq := by
          rintro rfl
          rw [grantee?_eq_some_iff.2 ⟨rfl, congrArg Prod.fst hval⟩] at hgrab
          cases hgrab
        rw [hval]
        refine hm.irqOwner?_of_same ?_ fun id halive => (isAlive_route _ _ _ id).trans halive
        rw [irqOwner?_route, if_neg fun h => hline h.1.symm]
    · refine hm.irqOwner?_of_same ?_ fun id halive => (isAlive_route _ _ _ id).trans halive
      show (m.registry.route line none).2.irqOwner? irq = _
      rw [irqOwner?_route, if_neg]
      rintro ⟨rfl, -⟩
      exact hrelease rfl

/-- **The owner of a line** after an operation. -/
theorem irqOwner?_perform (hm : Settled config m) (op : Op) (irq : UInt8) (id : VmId) :
    (m.perform op).val.2.registry.irqOwner? irq = some id ↔
      grantee? irq m op = some id ∨
        m.registry.irqOwner? irq = some id ∧ grantee? irq m op = none ∧ op ≠ .releaseIrq irq ∧
          (m.perform op).val.2.isAlive id = true := by
  cases hgrab : grantee? irq m op with
  | some c =>
    obtain ⟨rfl, hdone⟩ := grantee?_eq_some_iff.1 hgrab
    obtain ⟨e, hval⟩ | ⟨⟨-, hline, -⟩, hval⟩ := m.val_perform_grabIrq c irq
    · rw [hval] at hdone
      cases hdone
    · rw [hval]
      show (m.registry.route irq (some c)).2.irqOwner? irq = some id ↔ _
      rw [irqOwner?_route, if_pos ⟨rfl, hline⟩]
      simp
  | none =>
    by_cases hrelease : op = .releaseIrq irq
    · subst hrelease
      have howner : (m.perform (.releaseIrq irq)).val.2.registry.irqOwner? irq = none := by
        show (m.registry.route irq none).2.irqOwner? irq = none
        rw [irqOwner?_route]
        split
        · rfl
        next hline =>
          have hlt : ¬irq.toNat < 16 := fun hlt => hline ⟨rfl, hlt⟩
          rw [Registry.irqOwner?, Vector.getElem?_eq_none (by omega)]
          rfl
      rw [howner]
      simp
    · rw [irqOwner?_filter hm hgrab hrelease, Option.filter_eq_some_iff]
      simp [hrelease]

/-- A line that is owned is not given to another session. -/
theorem irqOwner?_grabIrq (howner : m.registry.irqOwner? irq = some other)
    (id : VmId) (line : UInt8) :
    (m.perform (.grabIrq id line)).val.2.registry.irqOwner? irq = some other := by
  obtain ⟨e, hval⟩ | ⟨⟨-, -, hfree⟩, hval⟩ := m.val_perform_grabIrq id line
  · rw [hval]
    exact howner
  · rw [hval]
    show (m.registry.route line (some id)).2.irqOwner? irq = some other
    rw [irqOwner?_route]
    split
    next h =>
      obtain ⟨rfl, -⟩ := h
      rw [hfree other howner]
    next => exact howner

/-! ## Runs -/

/-- Session `id` keeps a line that it owns: it lives on, and the line is not given or released. -/
structure KeepsLine (irq : UInt8) (id : VmId) (m : Monitor) (ops : List Op) : Prop where
  lives : livesThrough id m ops = true
  ungiven : grantees irq m ops = []
  unreleased : .releaseIrq irq ∉ ops

theorem KeepsLine.isAlive (h : KeepsLine irq id m ops) : m.isAlive id = true := by
  cases ops with
  | nil => exact h.lives
  | cons op ops => exact (Bool.and_eq_true_iff.1 h.lives).1

theorem keepsLine_nil : KeepsLine irq id m [] ↔ m.isAlive id = true :=
  ⟨fun h => h.isAlive, fun h => ⟨h, rfl, by simp⟩⟩

theorem keepsLine_cons : KeepsLine irq id m (op :: ops) ↔
    (m.isAlive id = true ∧ grantee? irq m op = none ∧ op ≠ .releaseIrq irq) ∧
      KeepsLine irq id (m.perform op).val.2 ops := by
  constructor
  · rintro ⟨hlives, hungiven, hunreleased⟩
    obtain ⟨halive, hlives⟩ := Bool.and_eq_true_iff.1 hlives
    obtain ⟨hop, hungiven⟩ := List.append_eq_nil_iff.1 hungiven
    rw [List.mem_cons, not_or] at hunreleased
    obtain ⟨hrelease, hunreleased⟩ := hunreleased
    have hnobody := Option.toList_eq_nil_iff.1 hop
    exact ⟨⟨halive, hnobody, Ne.symm hrelease⟩, hlives, hungiven, hunreleased⟩
  · rintro ⟨⟨halive, hop, hrelease⟩, hlives, hungiven, hunreleased⟩
    refine ⟨?_, ?_, ?_⟩
    · rw [livesThrough, halive, hlives]
      rfl
    · rw [grantees, hop, hungiven]
      rfl
    · rw [List.mem_cons, not_or]
      exact ⟨Ne.symm hrelease, hunreleased⟩

/-- **The owner of a line** after a run. -/
theorem irqOwner?_run (hm : Settled config m) (ops : List Op) (irq : UInt8) (id : VmId) :
    (m.run ops).val.2.registry.irqOwner? irq = some id ↔
      (∃ before after, ops = before ++ .grabIrq id irq :: after ∧
        ((m.run before).val.2.perform (.grabIrq id irq)).val.1 = .done ∧
        KeepsLine irq id ((m.run before).val.2.perform (.grabIrq id irq)).val.2 after) ∨
      m.registry.irqOwner? irq = some id ∧ KeepsLine irq id m ops := by
  induction ops generalizing m with
  | nil =>
    constructor
    · intro howner
      exact .inr ⟨howner, keepsLine_nil.2 (hm.owned irq id howner)⟩
    · rintro (⟨before, after, hops, -⟩ | ⟨howner, -⟩)
      · simp at hops
      · exact howner
  | cons op ops ih =>
    rw [val_run_cons]
    refine (ih (settled_perform hm op)).trans ⟨?_, ?_⟩
    · rintro (⟨before, after, rfl, hdone, hkeeps⟩ | ⟨howner, hkeeps⟩)
      · exact .inl ⟨op :: before, after, rfl, by rwa [val_run_cons], by rwa [val_run_cons]⟩
      · rcases (irqOwner?_perform hm op irq id).1 howner with hgrab | ⟨howner, hgrab, hrelease, -⟩
        · obtain ⟨rfl, hdone⟩ := grantee?_eq_some_iff.1 hgrab
          exact .inl ⟨[], ops, rfl, hdone, hkeeps⟩
        · exact .inr ⟨howner, keepsLine_cons.2 ⟨⟨hm.owned irq id howner, hgrab, hrelease⟩, hkeeps⟩⟩
    · rintro (⟨_ | ⟨first, before⟩, after, hops, hdone, hkeeps⟩ | ⟨howner, hkeeps⟩)
      · obtain ⟨rfl, rfl⟩ := List.cons.inj hops
        exact .inr ⟨(irqOwner?_perform hm _ irq id).2 (.inl (grantee?_eq_some_iff.2 ⟨rfl, hdone⟩)),
          hkeeps⟩
      · obtain ⟨rfl, rfl⟩ := List.cons.inj hops
        rw [val_run_cons] at hdone hkeeps
        exact .inl ⟨before, after, rfl, hdone, hkeeps⟩
      · obtain ⟨⟨-, hgrab, hrelease⟩, hkeeps⟩ := keepsLine_cons.1 hkeeps
        exact .inr ⟨(irqOwner?_perform hm op irq id).2
          (.inr ⟨howner, hgrab, hrelease, hkeeps.isAlive⟩), hkeeps⟩

/-! ## The theorem -/

theorem irqOwner?_start (hstart : (start config).val = .ok m₀) (irq : UInt8) :
    m₀.registry.irqOwner? irq = none := by
  obtain ⟨-, rfl⟩ := start_eq_ok hstart
  simp only [Registry.irqOwner?, Registry.ofSize, Vector.getElem?_replicate]
  split <;> rfl

/-- **Host lines** after any operations from a start on. -/
theorem host_lines (hstart : (start config).val = .ok m₀) (ops : List Op) (irq : UInt8) :
    ((m₀.run ops).val.2.registry.irqOwner? irq = none →
      (m₀.run ops).val.2.hardwareIrq irq = pure (.ok none, (m₀.run ops).val.2)) ∧
    (∀ id, (m₀.run ops).val.2.registry.irqOwner? irq = some id →
      (m₀.run ops).val.2.hardwareIrq irq =
          (fun y => (y.1.map some, y.2)) <$> (m₀.run ops).val.2.raiseIrq id irq ∧
        ∀ other line, ((m₀.run ops).val.2.perform
          (.grabIrq other line)).val.2.registry.irqOwner? irq = some id) ∧
    ∀ id, (m₀.run ops).val.2.registry.irqOwner? irq = some id ↔
      ∃ before after, ops = before ++ .grabIrq id irq :: after ∧
        ((m₀.run before).val.2.perform (.grabIrq id irq)).val.1 = .done ∧
        KeepsLine irq id ((m₀.run before).val.2.perform (.grabIrq id irq)).val.2 after := by
  have hsettled : ∀ ops, Settled config (m₀.run ops).val.2 := fun ops =>
    Reachable.settled ⟨m₀, ops, hstart, rfl⟩
  refine ⟨hardwareIrq_unowned, fun id howner => ⟨hardwareIrq_owned (hsettled ops) howner, ?_⟩,
    fun id => ?_⟩
  · exact irqOwner?_grabIrq howner
  · refine (irqOwner?_run (hsettled []) ops irq id).trans (or_iff_left ?_)
    rintro ⟨howner, -⟩
    exact Option.some_ne_none id (howner.symm.trans (irqOwner?_start hstart irq))

/-- The second session is refused the line of the first one, and then that is killed. -/
def contested : List Op :=
  let a : VmId := ⟨0, 0⟩
  let b : VmId := ⟨1, 0⟩
  [.create, .create, .installPic b, .enableInterrupts b, .grabIrq a 6, .grabIrq b 6, .kill a]

/-- The session that is left has the line. -/
def handedOver : Monitor :=
  ((started { guestMemory := 0x500 }).run (contested ++ [.grabIrq ⟨1, 0⟩ 6, .now])).val.2

/-- It dies of an interrupt there, as its stack is outside memory. -/
theorem host_lines_of_handedOver :
    let b : VmId := ⟨1, 0⟩
    handedOver.registry.irqOwner? 6 = some b ∧
      handedOver.hardwareIrq 6 =
        (fun y => (y.1.map some, y.2)) <$> handedOver.raiseIrq b 6 ∧
      (handedOver.hardwareIrq 6).val.2.isAlive b = false ∧
      handedOver.registry.irqOwner? 7 = none ∧
      handedOver.hardwareIrq 7 = pure (.ok none, handedOver) := by
  intro b
  have hstart : (start { guestMemory := 0x500 }).val = .ok (started { guestMemory := 0x500 }) := rfl
  obtain ⟨-, howned, howner⟩ := host_lines hstart (contested ++ [.grabIrq b 6, .now]) 6
  obtain ⟨hunowned, -⟩ := host_lines hstart (contested ++ [.grabIrq b 6, .now]) 7
  have hdone : (((started { guestMemory := 0x500 }).run contested).val.2.perform
      (.grabIrq b 6)).val.1 = .done := by
    cbv
  have hkeeps : KeepsLine 6 b (((started { guestMemory := 0x500 }).run contested).val.2.perform
      (.grabIrq b 6)).val.2 [.now] := by
    refine keepsLine_cons.2 ⟨⟨?_, ?_, by simp⟩, keepsLine_nil.2 ?_⟩
    · cbv
    · simp [grantee?]
    · cbv
  have hb : handedOver.registry.irqOwner? 6 = some b :=
    (howner b).2 ⟨contested, [.now], rfl, hdone, hkeeps⟩
  have hnobody : handedOver.registry.irqOwner? 7 = none := by cbv
  have hdies : (handedOver.hardwareIrq 6).val.2.isAlive b = false := by cbv
  exact ⟨hb, (howned b hb).1, hdies, hnobody, hunowned hnobody⟩

end RealModeMonitor.Monitor
