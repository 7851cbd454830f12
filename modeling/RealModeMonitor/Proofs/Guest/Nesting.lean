import Mathlib
import RealModeMonitor.Guest.Run
import RealModeMonitor.Proofs.Guest.Interrupt

/-!
# Nested interrupts unwind

Interrupts that are taken one inside the other stack their words downwards, each below those of the
one before, and as long as they take up no more than the segment, no word touches another. A handler
may have been anywhere: where it goes is read from a vector table that the stack may lie over, but a
return looks at the stack only.

**Depth.** The words above the stack pointer are left alone by `n` interrupts if they end within
`65536 - 6 * n` bytes of it (`word_nested`). This is the invariant of the induction: one interrupt
takes the pointer down by 6, and the words it stored are above it then.

Main result: `interrupts_unwind`.
-/

namespace RealModeMonitor

/-- The words above the stack pointer are not touched by what is pushed below it, also where the
stack pointer wraps. -/
theorem Frame.popAddress_disjoint (f : Frame) {above below : UInt16} (hbelow : 2 ≤ below.toNat)
    (h : above.toNat + below.toNat ≤ 65534) :
    f.pushAddress below + 2 ≤ f.popAddress above ∨
      f.popAddress above + 2 ≤ f.pushAddress below := by
  have hsp := f.sp.toNat_lt
  rw [pushAddress, popAddress, linear, linear, UInt16.toNat_sub, UInt16.toNat_add]
  omega

/-- The registers when as many interrupts have returned. If there was none, not even the reserved
flag has been set. -/
def Frame.restored (f : Frame) : Nat → Frame
  | 0 => f
  | _ + 1 => { f with flags := f.flags ||| reservedFlag }

@[simp] theorem Frame.restored_ss (f : Frame) (n : Nat) : (f.restored n).ss = f.ss := by
  cases n <;> rfl

@[simp] theorem Frame.restored_sp (f : Frame) (n : Nat) : (f.restored n).sp = f.sp := by
  cases n <;> rfl

namespace Guest

open Traced

variable {g : Guest} {vector : UInt8} {vectors : List UInt8}

/-! ## Runs of interrupts -/

/-- The guest in the innermost of nested handlers. -/
def nested (g : Guest) (vectors : List UInt8) : Guest := vectors.foldl entered g

/-- All interrupts in a row are taken. -/
def Takes (g : Guest) : List UInt8 → Prop
  | [] => True
  | vector :: rest => g.HasRoom vector ∧ (g.entered vector).Takes rest

/-- Interrupts that all succeed lead to the innermost handler. -/
theorem run_interrupts
    (h : (g.run (vectors.map .interrupt)).val.1 = List.replicate vectors.length .done) :
    g.Takes vectors ∧ (g.run (vectors.map .interrupt)).val.2 = g.nested vectors := by
  induction vectors generalizing g with
  | nil => exact ⟨trivial, rfl⟩
  | cons vector rest ih =>
    simp only [List.map_cons, run, val_bind, val_pure, val_act, List.length_cons,
      List.replicate_succ, List.cons.injEq] at h ⊢
    obtain ⟨hdone, hrest⟩ := h
    obtain ⟨hroom, hentered⟩ : g.HasRoom vector ∧
        g.perform (.interrupt vector) = (.done, g.entered vector) := by
      rcases g.interrupt_outcome vector with
        ⟨-, hint⟩ | ⟨-, hroom, hint⟩ | ⟨-, -, e, after, hint, -⟩
      · simp [perform, hint] at hdone
      · exact ⟨hroom, by rw [perform, hint]⟩
      · simp [perform, hint] at hdone
    rw [hentered] at hrest ⊢
    obtain ⟨htakes, hnested⟩ := ih hrest
    exact ⟨⟨hroom, htakes⟩, hnested⟩

theorem val_run_concat (g : Guest) (as : List Action) (a : Action) :
    (g.run (as ++ [a])).val =
      ((g.run as).val.1 ++ [((g.run as).val.2.perform a).1], ((g.run as).val.2.perform a).2) := by
  induction as generalizing g with
  | nil => simp [run]
  | cons b as ih => simp [run, ih]

/-! ## What nested interrupts leave alone -/

@[simp] theorem size_nested (g : Guest) (vectors : List UInt8) :
    (g.nested vectors).memory.size = g.memory.size := by
  induction vectors generalizing g with
  | nil => rfl
  | cons vector rest ih =>
    rw [nested, List.foldl_cons, ← nested, ih]
    exact g.size_pushed

theorem word_pushed_above (g : Guest) {above : UInt16} (h : above.toNat ≤ 65528) :
    g.pushed.word (g.frame.popAddress above) = g.memory.word (g.frame.popAddress above) := by
  have hdisjoint : ∀ below : UInt16, 2 ≤ below.toNat → below.toNat ≤ 6 →
      g.frame.pushAddress below + 2 ≤ g.frame.popAddress above ∨
        g.frame.popAddress above + 2 ≤ g.frame.pushAddress below :=
    fun below hlow hhigh => g.frame.popAddress_disjoint hlow (by omega)
  rw [pushed, Memory.word_storeWord_other (hdisjoint 6 (by decide) (by decide)),
    Memory.word_storeWord_other (hdisjoint 4 (by decide) (by decide)),
    Memory.word_storeWord_other (hdisjoint 2 (by decide) (by decide))]

/-- Words that nested interrupts do not come round to are left alone. -/
theorem word_nested (g : Guest) {above : UInt16} (h : above.toNat + 6 * vectors.length ≤ 65534) :
    (g.nested vectors).memory.word (g.frame.popAddress above) =
      g.memory.word (g.frame.popAddress above) := by
  induction vectors generalizing g above with
  | nil => rfl
  | cons vector rest ih =>
    rw [List.length_cons] at h
    have hsum : (above + 6).toNat = above.toNat + 6 := by
      rw [UInt16.toNat_add]
      exact Nat.mod_eq_of_lt (by have : (6 : UInt16).toNat = 6 := rfl; omega)
    have haddress : g.frame.popAddress above = (g.entered vector).frame.popAddress (above + 6) := by
      show linear g.frame.ss _ = linear g.frame.ss (g.frame.sp - 6 + (above + 6))
      congr 1
      grind
    have hrest : ((g.entered vector).nested rest).memory.word (g.frame.popAddress above) =
        g.pushed.word (g.frame.popAddress above) := by
      rw [haddress]
      exact ih (g.entered vector) (by omega)
    rw [nested, List.foldl_cons, ← nested, hrest]
    exact g.word_pushed_above (by omega)

/-! ## Returns -/

theorem word_nested_interruptWords (g : Guest) (vector : UInt8) {rest : List UInt8}
    (hdepth : 6 * (rest.length + 1) ≤ 65536) :
    ∀ p ∈ interruptWords g.frame, (g.nested (vector :: rest)).memory.word p.1 = p.2 := by
  have hkept : ∀ above below : UInt16, above + below = 6 → above.toNat ≤ 4 →
      (g.nested (vector :: rest)).memory.word (g.frame.pushAddress below) =
        g.pushed.word (g.frame.pushAddress below) := by
    intro above below hsum habove
    have hsp : (g.entered vector).frame.sp + above = g.frame.sp - below := by
      show g.frame.sp - 6 + above = g.frame.sp - below
      grind
    rw [← Frame.popAddress_sub g.frame (g.entered vector).frame rfl hsp]
    exact word_nested (g.entered vector) (by omega)
  have hpushed := g.word_pushed
  simp only [interruptWords, List.forall_mem_cons, List.not_mem_nil, false_imp_iff, implies_true,
    and_true] at hpushed ⊢
  rwa [hkept 4 2 (by decide) (by decide), hkept 2 4 (by decide) (by decide),
    hkept 0 6 (by decide) (by decide)]

/-- **Returns from nested handlers** succeed one by one and give back the registers. -/
theorem run_irets (htakes : g.Takes vectors) (hdepth : 6 * vectors.length ≤ 65536) :
    ((g.nested vectors).run (List.replicate vectors.length .iret)).val =
      (List.replicate vectors.length .done,
        { g.nested vectors with frame := g.frame.restored vectors.length }) := by
  induction vectors generalizing g with
  | nil => rfl
  | cons vector rest ih =>
    obtain ⟨hroom, hrest⟩ := htakes
    rw [List.length_cons] at hdepth ⊢
    have hinner := ih hrest (by omega)
    have hfits : ∀ below ∈ [2, 4, 6],
        (g.nested (vector :: rest)).memory.Fits (g.frame.pushAddress below) 2 := by
      intro below hbelow
      rw [Memory.Fits, size_nested]
      exact hroom.stack below hbelow
    have houter : Guest.iret { g.nested (vector :: rest) with
          frame := (g.entered vector).frame.restored rest.length } =
        (.ok (), { g.nested (vector :: rest) with
          frame := { g.frame with flags := g.frame.flags ||| Frame.reservedFlag } }) :=
      iret_of_words (Frame.restored_ss ..) (Frame.restored_sp ..) hfits
        (g.word_nested_interruptWords vector hdepth)
    show (run ((g.entered vector).nested rest) _).val = _
    rw [List.replicate_succ', List.replicate_succ', val_run_concat, hinner]
    simp only [perform]
    rw [show (g.entered vector).nested rest = g.nested (vector :: rest) from rfl, houter]
    rfl

/-- **Nested interrupts unwind.** If `n` interrupts in a row are taken and have room in the stack
segment, `n` returns in a row succeed, and the registers are those from before the first one. -/
theorem interrupts_unwind (g : Guest) (vectors : List UInt8)
    (hdepth : 6 * vectors.length ≤ 65536)
    (htaken : (g.run (vectors.map .interrupt)).val.1 = List.replicate vectors.length .done) :
    ((g.run (vectors.map .interrupt)).val.2.run (List.replicate vectors.length .iret)).val =
      (List.replicate vectors.length .done,
        { (g.run (vectors.map .interrupt)).val.2 with
          frame := g.frame.restored vectors.length }) := by
  obtain ⟨htakes, hnested⟩ := run_interrupts htaken
  rw [hnested, run_irets htakes hdepth]

/-- A stack at an odd address that lies over the vector table and wraps: the words of the first
interrupt are where the second one reads its target. -/
theorem interrupts_unwind_over_vectors :
    let g : Guest := { frame := { cs := 0x1000, ip := 0x0123, sp := 3, flags := 0x0301 }
                       memory := .blank 0x20000 }
    let inner := (g.run ([0, 0, 0x21].map .interrupt)).val.2
    6 * 3 ≤ 65536 ∧
      (g.run ([0, 0, 0x21].map .interrupt)).val.1 = List.replicate 3 .done ∧
      (inner.run (List.replicate 3 .iret)).val =
        (List.replicate 3 .done, { inner with frame := g.frame.restored 3 }) := by
  intro g inner
  have htaken : (g.run ([0, 0, 0x21].map .interrupt)).val.1 = List.replicate 3 .done := by cbv
  exact ⟨by decide, htaken, interrupts_unwind g [0, 0, 0x21] (by decide) htaken⟩

end Guest
end RealModeMonitor
