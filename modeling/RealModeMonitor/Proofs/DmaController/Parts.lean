import RealModeMonitor.Proofs.DmaController.Run

/-!
# Parts of the DMA controllers

Each operation works on one part of the state: it answers from that part and changes nothing else.

**Parts.** `Part σ α` is a value of type `α` in a state of type `σ` that can be read and replaced on
its own. Two parts are `Apart` if it does not matter which is replaced first.

**Operations.** `Op.WorksOn` says that an operation works on a part. An operation that addresses a
chip works on that chip (`worksOn_chip`), one that goes to a register that is not a control register
on that register (`worksOn_register`).

**Order.** Operations on parts that are apart can be done in either order: both states and both
answers are the same (`commute_of_apart`).
-/

namespace RealModeMonitor

open DmaChip

/-! ## Parts of a state -/

/-- A value in a state that can be read and replaced on its own. -/
structure Part (σ α : Type) where
  get : σ → α
  set : σ → α → σ
  get_set : ∀ s a, get (set s a) = a
  set_get : ∀ s, set s (get s) = s
  set_set : ∀ s a b, set (set s a) b = set s b

namespace Part

variable {σ α β γ δ : Type}

/-- A part of a part. -/
def comp (P : Part σ α) (Q : Part α β) : Part σ β where
  get s := Q.get (P.get s)
  set s b := P.set s (Q.set (P.get s) b)
  get_set s b := by rw [P.get_set, Q.get_set]
  set_get s := by rw [Q.set_get, P.set_get]
  set_set s a b := by rw [P.get_set, P.set_set, Q.set_set]

/-- An element of a vector. -/
def element {n : Nat} (i : Fin n) : Part (Vector α n) α where
  get v := v[i]
  set v a := v.set i a
  get_set v a := Vector.getElem_set_self i.isLt
  set_get v := Vector.set_getElem_self i.isLt
  set_set v a b := Vector.set_set a i.isLt

/-- It does not matter which of the parts is replaced first. -/
def Apart (P : Part σ α) (Q : Part σ β) : Prop := ∀ s a b, Q.set (P.set s a) b = P.set (Q.set s b) a

variable {P : Part σ α} {Q : Part σ β}

theorem Apart.symm (h : P.Apart Q) : Q.Apart P := fun s b a => (h s a b).symm

/-- Replacing one part leaves the other. -/
theorem Apart.get_set (h : P.Apart Q) (s : σ) (b : β) : P.get (Q.set s b) = P.get s :=
  calc P.get (Q.set s b)
      = P.get (Q.set (P.set s (P.get s)) b) := by rw [P.set_get]
    _ = P.get (P.set (Q.set s b) (P.get s)) := by rw [h]
    _ = P.get s := P.get_set _ _

theorem Apart.comp (h : P.Apart Q) (P' : Part α γ) (Q' : Part β δ) :
    (P.comp P').Apart (Q.comp Q') := by
  intro s a b
  simp only [Part.comp, h.get_set, h.symm.get_set]
  exact h s _ _

theorem comp_apart_comp (P : Part σ α) {Q : Part α β} {R : Part α γ} (h : Q.Apart R) :
    (P.comp Q).Apart (P.comp R) := by
  intro s a b
  simp only [Part.comp, P.get_set, P.set_set]
  rw [h]

theorem element_apart {n : Nat} {i j : Fin n} (h : i ≠ j) :
    (element i : Part (Vector α n) α).Apart (element j) := by
  intro v a b
  simp only [element]
  exact Vector.set_comm a b (Fin.val_ne_of_ne h)

end Part

namespace DmaController

/-! ## Operations that can change places -/

variable {α β : Type} {a b : Op}

/-- The operation answers from `P` and changes nothing else. -/
def Op.WorksOn (op : Op) (P : Part DmaController α) : Prop :=
  ∃ f : α → Answer × α,
    ∀ d : DmaController, d.perform op = ((f (P.get d)).1, P.set d (f (P.get d)).2)

/-- The order of two operations does not matter, neither for the state nor for the answers. -/
def Commute (d : DmaController) (a b : Op) : Prop :=
  ((d.perform a).2.perform b).2 = ((d.perform b).2.perform a).2 ∧
    ((d.perform b).2.perform a).1 = (d.perform a).1 ∧
    ((d.perform a).2.perform b).1 = (d.perform b).1

theorem Op.WorksOn.of_comp {P : Part DmaController α} {Q : Part α β} (h : a.WorksOn (P.comp Q)) :
    a.WorksOn P := by
  obtain ⟨f, hf⟩ := h
  exact ⟨fun s => ((f (Q.get s)).1, Q.set s (f (Q.get s)).2), hf⟩

theorem Op.WorksOn.of_read {P : Part DmaController α} (g : α → Answer)
    (h : ∀ d : DmaController, d.perform a = (g (P.get d), d)) : a.WorksOn P :=
  ⟨fun s => (g s, s), fun d => by rw [h, P.set_get]⟩

theorem commute_of_apart {P : Part DmaController α} {Q : Part DmaController β} (h : P.Apart Q)
    (ha : a.WorksOn P) (hb : b.WorksOn Q) (d : DmaController) : d.Commute a b := by
  obtain ⟨f, hf⟩ := ha
  obtain ⟨g, hg⟩ := hb
  simp only [Commute, hf, hg, h.get_set, h.symm.get_set, and_true]
  exact h d _ _

/-! ## The parts -/

def allChips : Part DmaController (Vector DmaChip 2) where
  get d := d.chips
  set d v := { d with chips := v }
  get_set _ _ := rfl
  set_get _ := rfl
  set_set _ _ _ := rfl

def scratchBytes : Part DmaController (Vector UInt8 16) where
  get d := d.scratch
  set d v := { d with scratch := v }
  get_set _ _ := rfl
  set_get _ := rfl
  set_set _ _ _ := rfl

def allChannels : Part DmaChip (Vector DmaChannel 4) where
  get x := x.channels
  set x v := { x with channels := v }
  get_set _ _ := rfl
  set_get _ := rfl
  set_set _ _ _ := rfl

def wordPart (r : WordRegister) : Part DmaChannel FlipFlopWord where
  get x := x.word r
  set x w := x.setWord r w
  get_set x w := by cases r <;> rfl
  set_get x := by cases r <;> rfl
  set_set x w w' := by cases r <;> rfl

def pagePart : Part DmaChannel UInt8 where
  get x := x.page
  set x b := { x with page := b }
  get_set _ _ := rfl
  set_get _ := rfl
  set_set _ _ _ := rfl

def chipPart (c : Fin 2) : Part DmaController DmaChip := allChips.comp (.element c)

/-- A part of a channel. -/
def channelPart (c : Fin 2) (i : Fin 4) (P : Part DmaChannel α) : Part DmaController α :=
  (chipPart c).comp (allChannels.comp ((Part.element i).comp P))

def scratchPart (i : Fin 16) : Part DmaController UInt8 := scratchBytes.comp (.element i)

theorem chipPart_apart {c e : Fin 2} (h : c ≠ e) : (chipPart c).Apart (chipPart e) :=
  allChips.comp_apart_comp (Part.element_apart h)

theorem channelPart_apart {c e : Fin 2} {i j : Fin 4} {P : Part DmaChannel α}
    {Q : Part DmaChannel β} (h : c = e → i = j → P.Apart Q) :
    (channelPart c i P).Apart (channelPart e j Q) := by
  by_cases hc : c = e
  · subst hc
    refine (chipPart c).comp_apart_comp (allChannels.comp_apart_comp ?_)
    by_cases hi : i = j
    · subst hi
      exact (Part.element i).comp_apart_comp (h rfl rfl)
    · exact (Part.element_apart hi).comp P Q
  · exact (chipPart_apart hc).comp _ _

theorem wordPart_apart {r s : WordRegister} (h : r ≠ s) : (wordPart r).Apart (wordPart s) := by
  intro x w w'
  cases r <;> cases s
  · exact absurd rfl h
  · rfl
  · rfl
  · exact absurd rfl h

theorem wordPart_apart_pagePart (r : WordRegister) : (wordPart r).Apart pagePart := by
  intro x w b
  cases r <;> rfl

theorem channelPart_apart_scratchPart (c : Fin 2) (i : Fin 4) (P : Part DmaChannel α) (k : Fin 16) :
    (channelPart c i P).Apart (scratchPart k) :=
  Part.Apart.comp (fun _ _ _ => rfl : (chipPart c).Apart scratchBytes) _ _

/-! ## Registers -/

namespace Target

/-- What is behind a register; the control registers work on the whole chip. -/
def Value : Target → Type
  | word .. => FlipFlopWord
  | control .. => DmaChip
  | page .. | scratch _ => UInt8

def part : (t : Target) → Part DmaController t.Value
  | word c i r => channelPart c i (wordPart r)
  | control c _ => chipPart c
  | page c i => channelPart c i pagePart
  | scratch k => scratchPart k

def isControl : Target → Bool
  | control .. => true
  | word .. | page .. | scratch _ => false

theorem part_apart {t u : Target} (ht : t.isControl = false) (hu : u.isControl = false)
    (h : t ≠ u) : t.part.Apart u.part := by
  cases t with
  | control c r => cases ht
  | word c i r =>
    cases u with
    | control c r => cases hu
    | word e j s =>
      refine channelPart_apart fun hc hi => wordPart_apart ?_
      rintro rfl
      exact h (by rw [hc, hi])
    | page e j => exact channelPart_apart fun _ _ => wordPart_apart_pagePart r
    | scratch k => exact channelPart_apart_scratchPart c i _ k
  | page c i =>
    cases u with
    | control c r => cases hu
    | word e j s => exact channelPart_apart fun _ _ => (wordPart_apart_pagePart s).symm
    | page e j => exact channelPart_apart fun hc hi => absurd (by rw [hc, hi]) h
    | scratch k => exact channelPart_apart_scratchPart c i _ k
  | scratch k =>
    cases u with
    | control c r => cases hu
    | word e j s => exact (channelPart_apart_scratchPart e j _ k).symm
    | page e j => exact (channelPart_apart_scratchPart e j _ k).symm
    | scratch l => exact scratchBytes.comp_apart_comp (Part.element_apart fun hk => h (by rw [hk]))

end Target

/-! ## What operations work on -/

theorem write_worksOn {port : UInt16} {t : Target} (h : Target.ofPort? port = some t) (b : UInt8) :
    (Op.write port b).WorksOn t.part := by
  cases t with
  | word c i r =>
    refine ⟨fun w => (.done (.ok ()), w.write b), fun d => ?_⟩
    simp only [perform, writePort, h, writeWord_eq]
    rfl
  | control c r =>
    refine ⟨fun x => (.done (x.writeControl r b).1, (x.writeControl r b).2), fun d => ?_⟩
    simp only [perform, writePort, h]
    rfl
  | page c i =>
    refine ⟨fun _ => (.done (.ok ()), b), fun d => ?_⟩
    simp only [perform, writePort, h]
    rfl
  | scratch k =>
    refine ⟨fun _ => (.done (.ok ()), b), fun d => ?_⟩
    simp only [perform, writePort, h]
    rfl

theorem read_worksOn {port : UInt16} {t : Target} (h : Target.ofPort? port = some t) :
    (Op.read port).WorksOn t.part := by
  cases t with
  | word c i r =>
    refine ⟨fun w => (.byte w.read.1, w.read.2), fun d => ?_⟩
    simp only [perform, readPort, h, readWord_eq]
    rfl
  | control c r =>
    refine .of_read (fun x => .byte (DmaChip.readControl x r)) fun d => ?_
    simp only [perform, readPort, h]
    rfl
  | page c i =>
    refine .of_read .byte fun d => ?_
    simp only [perform, readPort, h]
    rfl
  | scratch k =>
    refine .of_read .byte fun d => ?_
    simp only [perform, readPort, h]
    rfl

/-- The chip that a register belongs to. -/
def Target.chip? : Target → Option (Fin 2)
  | word c _ _ | control c _ | page c _ => some c
  | scratch _ => none

/-- The chip that an operation addresses. -/
def Op.chip? : Op → Option (Fin 2)
  | .write port _ | .read port => (Target.ofPort? port).bind Target.chip?
  | .program n | .setProgram n _ => (channelOf? n).map Prod.fst

theorem worksOn_chip_of_part {t : Target} {c : Fin 2} (ht : t.chip? = some c)
    (h : a.WorksOn t.part) : a.WorksOn (chipPart c) := by
  cases t with
  | word e j r | page e j =>
    obtain rfl := Option.some.inj ht
    exact h.of_comp
  | control e r =>
    obtain rfl := Option.some.inj ht
    exact h
  | scratch k => cases ht

theorem worksOn_chip {c : Fin 2} (h : a.chip? = some c) : a.WorksOn (chipPart c) := by
  cases a with
  | write port v =>
    obtain ⟨t, hport, ht⟩ := Option.bind_eq_some_iff.1 h
    exact worksOn_chip_of_part ht (write_worksOn hport v)
  | read port =>
    obtain ⟨t, hport, ht⟩ := Option.bind_eq_some_iff.1 h
    exact worksOn_chip_of_part ht (read_worksOn hport)
  | program n =>
    obtain ⟨⟨e, i⟩, hn, rfl⟩ := Option.map_eq_some_iff.1 h
    refine .of_read (fun x => .program (.ok (x.channel i).program)) fun d => ?_
    simp only [perform, program, hn]
    rfl
  | setProgram n p =>
    obtain ⟨⟨e, i⟩, hn, rfl⟩ := Option.map_eq_some_iff.1 h
    refine ⟨fun x => (.done (.ok ()), x.modify i fun y => y.setProgram p), fun d => ?_⟩
    simp only [perform, setProgram, hn]
    rfl

/-- The register that a port operation goes to, unless it is a control register. -/
def Op.register? : Op → Option Target
  | .write port _ | .read port => (Target.ofPort? port).filter fun t => !t.isControl
  | .program _ | .setProgram .. => none

theorem worksOn_register {t : Target} (h : a.register? = some t) :
    t.isControl = false ∧ a.WorksOn t.part := by
  cases a with
  | write port v =>
    obtain ⟨hport, ht⟩ := Option.filter_eq_some_iff.1 h
    exact ⟨Bool.not_eq_true' _ ▸ ht, write_worksOn hport v⟩
  | read port =>
    obtain ⟨hport, ht⟩ := Option.filter_eq_some_iff.1 h
    exact ⟨Bool.not_eq_true' _ ▸ ht, read_worksOn hport⟩
  | program n => cases h
  | setProgram n p => cases h

/-- Operations that address different chips can be done in either order. -/
theorem commute_of_chip_ne {c e : Fin 2} (ha : a.chip? = some c) (hb : b.chip? = some e)
    (h : c ≠ e) (d : DmaController) : d.Commute a b :=
  commute_of_apart (chipPart_apart h) (worksOn_chip ha) (worksOn_chip hb) d

/-- Operations on different registers can be done in either order. -/
theorem commute_of_register_ne {t u : Target} (ha : a.register? = some t)
    (hb : b.register? = some u) (h : t ≠ u) (d : DmaController) : d.Commute a b := by
  obtain ⟨ht, ha⟩ := worksOn_register ha
  obtain ⟨hu, hb⟩ := worksOn_register hb
  exact commute_of_apart (Target.part_apart ht hu h) ha hb d

end DmaController
end RealModeMonitor
