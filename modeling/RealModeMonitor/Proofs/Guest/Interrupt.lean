import RealModeMonitor.Proofs.Guest.Return

/-!
# When an interrupt succeeds, and what it touches

An interrupt reads four bytes of the vector table and writes three words of the stack. It succeeds
if all of these bytes lie in memory. If one does not, some words may have been pushed before it is
found out, and the guest is at fault; its registers are as they were.

There are three ways an interrupt can go, and `interrupt_outcome` says what each of them does.

Main result: `interrupt_exact`.
-/

namespace RealModeMonitor

open Memory

/-! ## Memory -/

namespace Memory

variable {m : Memory} {a b : Nat} {bytes : List UInt8} {vector : UInt8}

theorem fits_two_iff : m.Fits a 2 ↔ a + 1 < m.size := by
  rw [Fits]
  omega

@[simp] theorem size_write (m : Memory) (a : Nat) (bytes : List UInt8) :
    (m.write a bytes).2.size = m.size := by
  unfold write
  split <;> exact size_store ..

/-- A write leaves all other bytes alone, also where it runs past the end. -/
theorem byte_write_other (h : b < a ∨ a + bytes.length ≤ b) :
    (m.write a bytes).2.byte b = m.byte b := by
  unfold write
  split
  · exact byte_store_other h
  · refine byte_store_other (h.imp_right fun hle => ?_)
    rw [List.length_take]
    omega

theorem writeWord_of_not_fits (h : ¬m.Fits a 2) (w : UInt16) :
    (m.writeWord a w).1 = .error (.outOfBounds a 2) := by
  rw [writeWord, write]
  exact congrArg Prod.fst (if_neg h)

/-- Reading a word, and going on in a way that succeeds whatever the word is, or fails. -/
theorem isOk_readWord_bind {α : Type} {p : Prop} (m : Memory) (address : Nat)
    {f : UInt16 → Except MemoryError α} (hf : ∀ w, (f w).isOk = true ↔ p) :
    (m.readWord address >>= f).isOk = true ↔ m.Fits address 2 ∧ p := by
  rw [Memory.readWord]
  split
  next hfits => simp [hfits, bind, Except.bind, hf]
  next hfits => simp [hfits, bind, Except.bind, Except.isOk, Except.toBool]

theorem isOk_readVector (m : Memory) (vector : UInt8) :
    (m.readVector vector).isOk = true ↔
      m.Fits (4 * vector.toNat) 2 ∧ m.Fits (4 * vector.toNat + 2) 2 := by
  rw [← and_true (m.Fits (4 * vector.toNat + 2) 2)]
  exact isOk_readWord_bind _ _ fun _ => isOk_readWord_bind _ _ fun _ => iff_of_true rfl trivial

end Memory

/-! ## Pushing -/

/-- The stack bytes that an interrupt writes. -/
def Frame.stackBytes (f : Frame) : List Nat :=
  [2, 4, 6].flatMap fun below => [f.pushAddress below, f.pushAddress below + 1]

/-- The bytes of the vector table that an interrupt reads. -/
def vectorBytes (vector : UInt8) : List Nat := (List.range 4).map (4 * vector.toNat + ·)

/-- On entry to a handler the reserved flag is set, and the trap and interrupt flags are clear. -/
theorem Frame.testBit_handlerFlags (flags : UInt16) (i : Nat) :
    (handlerFlags flags).toNat.testBit i =
      (i == 1 || flags.toNat.testBit i && i != 8 && i != 9) := by
  have hflags : (handlerFlags flags).toNat = flags.toNat &&& 0xFCFF ||| 0x0002 := by
    simp [handlerFlags, interruptFlag, trapFlag, reservedFlag]
  have hmasks : ∀ i : Fin 16, Nat.testBit 0xFCFF i = (i.val != 8 && i.val != 9) ∧
      Nat.testBit 0x0002 i = (i.val == 1) := by decide
  rw [hflags, Nat.testBit_or, Nat.testBit_and]
  rcases Nat.lt_or_ge i 16 with hi | hi
  · obtain ⟨hkept, hset⟩ := hmasks ⟨i, hi⟩
    rw [hkept, hset, Bool.or_comm, Bool.and_assoc]
  · have hhigh : ∀ n < 2 ^ 16, n.testBit i = false := fun n hn =>
      Nat.testBit_lt_two_pow (Nat.lt_of_lt_of_le hn (Nat.pow_le_pow_right (by decide) hi))
    rw [hhigh _ flags.toNat_lt, hhigh 0x0002 (by decide)]
    simp
    omega

namespace Guest

variable {g : Guest} {vector : UInt8} {m : Memory} {p : Nat × UInt16} {words : List (Nat × UInt16)}

theorem pushWords_cons (h : m.Fits p.1 2) :
    pushWords m (p :: words) = pushWords (m.storeWord p.1 p.2) words := by
  rw [pushWords, writeWord_eq h]

/-- Pushing stops at the first word that does not lie in memory. -/
theorem pushWords_cons_failed (h : ¬m.Fits p.1 2) :
    pushWords m (p :: words) = (.error (.outOfBounds p.1 2), (m.writeWord p.1 p.2).2) := by
  have hfailed : m.writeWord p.1 p.2 = (.error (.outOfBounds p.1 2), (m.writeWord p.1 p.2).2) :=
    Prod.ext (writeWord_of_not_fits h p.2) rfl
  rw [pushWords, hfailed]

@[simp] theorem size_pushWords (m : Memory) (words : List (Nat × UInt16)) :
    (pushWords m words).2.size = m.size := by
  induction words generalizing m with
  | nil => rfl
  | cons p words ih =>
    by_cases hfits : m.Fits p.1 2
    · rw [pushWords_cons hfits, ih, size_storeWord]
    · rw [pushWords_cons_failed hfits]
      exact m.size_write ..

theorem isOk_pushWords (m : Memory) (words : List (Nat × UInt16)) :
    (pushWords m words).1.isOk = true ↔ ∀ p ∈ words, m.Fits p.1 2 := by
  induction words generalizing m with
  | nil => simp [pushWords, Except.isOk, Except.toBool]
  | cons p words ih =>
    rw [List.forall_mem_cons]
    by_cases hfits : m.Fits p.1 2
    · rw [pushWords_cons hfits, ih]
      simp [fits_storeWord, hfits]
    · rw [pushWords_cons_failed hfits]
      simp [hfits, Except.isOk, Except.toBool]

/-- Bytes that belong to none of the words are left alone, also if the pushing fails. -/
theorem byte_pushWords_other {a : Nat} (h : ∀ p ∈ words, a ≠ p.1 ∧ a ≠ p.1 + 1) :
    (pushWords m words).2.byte a = m.byte a := by
  induction words generalizing m with
  | nil => rfl
  | cons p words ih =>
    obtain ⟨hfirst, hrest⟩ := List.forall_mem_cons.1 h
    have hother : a < p.1 ∨ p.1 + 2 ≤ a := by omega
    by_cases hfits : m.Fits p.1 2
    · rw [pushWords_cons hfits, ih hrest]
      exact byte_store_other hother
    · rw [pushWords_cons_failed hfits]
      exact byte_write_other hother

theorem forall_interruptWords_ne {f : Frame} {a : Nat} (h : a ∉ f.stackBytes) :
    ∀ p ∈ interruptWords f, a ≠ p.1 ∧ a ≠ p.1 + 1 := by
  simpa [Frame.stackBytes, interruptWords, and_assoc] using h

@[simp] theorem size_pushFrame (g : Guest) (vector : UInt8) :
    (g.pushFrame vector).2.size = g.memory.size := by
  unfold pushFrame
  split
  · rfl
  · exact size_pushWords ..

theorem byte_pushFrame_other {a : Nat} (h : a ∉ g.frame.stackBytes) :
    (g.pushFrame vector).2.byte a = g.memory.byte a := by
  unfold pushFrame
  split
  · rfl
  · exact byte_pushWords_other (forall_interruptWords_ne h)

theorem hasRoom_iff :
    g.HasRoom vector ↔ g.memory.Fits (4 * vector.toNat) 2 ∧
      g.memory.Fits (4 * vector.toNat + 2) 2 ∧
        ∀ below ∈ [2, 4, 6], g.memory.Fits (g.frame.pushAddress below) 2 :=
  ⟨fun h => ⟨h.offset, h.segment, h.stack⟩, fun h => ⟨h.1, h.2.1, h.2.2⟩⟩

/-- The frame is pushed exactly if the vector and all stack words lie in memory. -/
theorem isOk_pushFrame_iff : (g.pushFrame vector).1.isOk = true ↔ g.HasRoom vector := by
  have hread := isOk_readVector g.memory vector
  have hpush : (pushWords g.memory (interruptWords g.frame)).1.isOk = true ↔
      ∀ below ∈ [2, 4, 6], g.memory.Fits (g.frame.pushAddress below) 2 := by
    rw [isOk_pushWords]
    simp [interruptWords]
  rw [hasRoom_iff, ← and_assoc, ← hread, ← hpush, pushFrame]
  cases g.memory.readVector vector with
  | error e => simp [Except.isOk, Except.toBool]
  | ok target =>
    rcases pushWords g.memory (interruptWords g.frame) with ⟨_ | _, memory⟩ <;>
      simp [Except.isOk, Except.toBool, Except.map]

/-! ## Interrupts -/

theorem hasRoom_iff_bytes :
    g.HasRoom vector ↔ ∀ a ∈ vectorBytes vector ++ g.frame.stackBytes, a < g.memory.size := by
  rw [hasRoom_iff]
  simp [fits_two_iff, vectorBytes, Frame.stackBytes, List.range_succ]
  omega

theorem isResumable_eq_true_iff : g.isResumable = true ↔ g.admitted = true ∧ g.dying = false := by
  rw [isResumable, Bool.and_eq_true_iff, Bool.not_eq_true']

theorem isResumable_eq_false_iff : g.isResumable = false ↔ g.admitted = false ∨ g.dying = true := by
  rw [isResumable, Bool.and_eq_false_iff, Bool.not_eq_false']

/-- A guest that has taken an interrupt. -/
structure Taken (g : Guest) (vector : UInt8) (after : Guest) : Prop where
  others : after = { g with
    frame := after.frame
    memory := after.memory
    injected := g.injected + 1
    lastVector := some vector }
  registers : after.frame = { g.frame with
    cs := (g.target vector).segment
    ip := (g.target vector).offset
    sp := g.frame.sp - 6
    flags := after.frame.flags }
  /-- Bit 1 is set, and bits 8 and 9, the trap and the interrupt flag, are clear. -/
  flags : ∀ i, after.frame.flags.toNat.testBit i =
    (i == 1 || g.frame.flags.toNat.testBit i && i != 8 && i != 9)
  words : ∀ p ∈ interruptWords g.frame,
    after.memory.byte p.1 = Byte.lowByte p.2 ∧ after.memory.byte (p.1 + 1) = Byte.highByte p.2
  size : after.memory.size = g.memory.size
  bytes : ∀ a ∉ g.frame.stackBytes, after.memory.byte a = g.memory.byte a

/-- A guest that could not take an interrupt: the fault is noted, and some of the stack bytes may
have been written. -/
structure Failed (g after : Guest) : Prop where
  others : after = { g with memory := after.memory, faulted := true }
  size : after.memory.size = g.memory.size
  bytes : ∀ a ∉ g.frame.stackBytes, after.memory.byte a = g.memory.byte a

theorem taken_entered (h : g.HasRoom vector) : Taken g vector (g.entered vector) where
  others := rfl
  registers := rfl
  flags := Frame.testBit_handlerFlags g.frame.flags
  words := by
    intro p hp
    have hword : g.pushed.word p.1 = p.2 := g.word_pushed p hp
    rw [← hword]
    exact ⟨(Byte.lowByte_word ..).symm, (Byte.highByte_word ..).symm⟩
  size := g.size_pushed
  bytes := by
    intro a ha
    have hother := byte_pushWords_other (m := g.memory) (forall_interruptWords_ne ha)
    rwa [pushWords_interruptWords h.stack] at hother

/-- **The three ways** an interrupt can go. -/
theorem interrupt_outcome (g : Guest) (vector : UInt8) :
    (g.isResumable = false ∧ g.interrupt vector = (.error .notResumable, g)) ∨
      (g.isResumable = true ∧ g.HasRoom vector ∧
        g.interrupt vector = (.ok (), g.entered vector)) ∨
      (g.isResumable = true ∧ ¬g.HasRoom vector ∧ ∃ e after,
        g.interrupt vector = (.error (.memory e), after) ∧ Failed g after) := by
  cases hresumable : g.isResumable with
  | false =>
    refine .inl ⟨rfl, ?_⟩
    rw [interrupt, hresumable]
    rfl
  | true =>
    by_cases hroom : g.HasRoom vector
    · exact .inr (.inl ⟨rfl, hroom, interrupt_eq hresumable hroom⟩)
    · refine .inr (.inr ⟨rfl, hroom, ?_⟩)
      cases hframe : (g.pushFrame vector).1 with
      | ok target => exact absurd (isOk_pushFrame_iff.1 (by rw [hframe]; rfl)) hroom
      | error e =>
        refine ⟨e, { g with memory := (g.pushFrame vector).2, faulted := true }, ?_, rfl,
          size_pushFrame g vector, fun a ha => byte_pushFrame_other ha⟩
        have hpair : g.pushFrame vector = (.error e, (g.pushFrame vector).2) := Prod.ext hframe rfl
        rw [interrupt, if_pos hresumable, hpair]

/-- **An interrupt** is refused, without any effect, if the guest must not be entered; else it
succeeds exactly if all bytes it needs lie in memory. It writes to the three stack words only. -/
theorem interrupt_exact (g : Guest) (vector : UInt8) :
    (g.interrupt vector = (.error .notResumable, g) ↔ g.admitted = false ∨ g.dying = true) ∧
      ((g.interrupt vector).1 = .error .notResumable → g.admitted = false ∨ g.dying = true) ∧
      (g.admitted = true ∧ g.dying = false →
        ((g.interrupt vector).1 = .ok () ↔
          ∀ a ∈ vectorBytes vector ++ g.frame.stackBytes, a < g.memory.size)) ∧
      ((g.interrupt vector).1 = .ok () → Taken g vector (g.interrupt vector).2) ∧
      ∀ e, (g.interrupt vector).1 = .error (.memory e) → Failed g (g.interrupt vector).2 := by
  rw [← isResumable_eq_false_iff, ← hasRoom_iff_bytes, ← isResumable_eq_true_iff]
  rcases g.interrupt_outcome vector with
    ⟨hres, h⟩ | ⟨hres, hroom, h⟩ | ⟨hres, hroom, e, after, h, hfailed⟩
  case inl => simp [h, hres]
  case inr.inl => simpa [h, hres, hroom] using taken_entered hroom
  case inr.inr => simpa [h, hres, hroom] using hfailed

/-- The first word runs past the end of memory: its low byte is written. -/
example :
    let g : Guest := { frame := { ss := 0x100, sp := 5, flags := 0x0302 }, memory := .blank 0x1004 }
    let r := g.interrupt 0
    r.1 = .error (.memory (.outOfBounds 0x1003 2)) ∧ r.2.memory.byte 0x1003 = 0x02 ∧
      r.2.memory.byte 0x1004 = 0 ∧ r.2.frame = g.frame ∧ r.2.faulted = true := by
  refine ⟨by cbv, by cbv, by cbv, by cbv, by cbv⟩

end Guest
end RealModeMonitor
