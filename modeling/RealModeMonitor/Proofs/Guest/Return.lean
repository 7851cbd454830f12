import RealModeMonitor.Guest.Basic

/-!
# Returning from an interrupt

An interrupt stores three words below the guest's stack pointer, and a return takes them back. Words
at addresses two or more apart do not touch each other (`word_storeWord_other`), and the three stack
words of an interrupt are that far apart wherever the stack pointer is, also where it wraps
(`pushAddress_disjoint`).

Main results: `interrupt_eq`, an interrupt whose words all lie in memory leads to `Guest.entered`;
and `iret_entered`, the return from there gives the registers back as they were.
-/

namespace RealModeMonitor

/-! ## Words -/

namespace Memory

variable {m : Memory} {a b : Nat}

/-- The word at an address. -/
def word (m : Memory) (a : Nat) : UInt16 := Byte.word (m.byte a) (m.byte (a + 1))

def storeWord (m : Memory) (a : Nat) (w : UInt16) : Memory :=
  m.store a [Byte.lowByte w, Byte.highByte w]

@[simp] theorem size_storeWord (m : Memory) (a : Nat) (w : UInt16) :
    (m.storeWord a w).size = m.size :=
  size_store m a _

theorem writeWord_eq (h : m.Fits a 2) (w : UInt16) :
    m.writeWord a w = (.ok (), m.storeWord a w) := by
  rw [writeWord, write]
  exact if_pos h

theorem readWord_eq (h : m.Fits a 2) : m.readWord a = .ok (m.word a) := by
  rw [readWord]
  exact if_pos h

theorem fits_storeWord (w : UInt16) : (m.storeWord b w).Fits a 2 ↔ m.Fits a 2 := by
  rw [Fits, size_storeWord, Fits]

@[simp] theorem word_storeWord_self (m : Memory) (a : Nat) (w : UInt16) :
    (m.storeWord a w).word a = w := by
  have hlow : (m.storeWord a w).byte a = Byte.lowByte w := by
    simp [storeWord, byte_store]
  have hhigh : (m.storeWord a w).byte (a + 1) = Byte.highByte w := by
    simp [storeWord, byte_store]
  rw [word, hlow, hhigh, Byte.word_lowByte_highByte]

/-- A store leaves all other bytes alone. -/
theorem byte_store_other {bytes : List UInt8} (h : b < a ∨ a + bytes.length ≤ b) :
    (m.store a bytes).byte b = m.byte b := by
  rw [byte_store]
  split
  next hle =>
    have hpast : bytes[b - a]? = none := List.getElem?_eq_none (by omega)
    rw [hpast, Option.getD_none]
  next => rfl

/-- A word at least two bytes away is left alone. -/
theorem word_storeWord_other (h : a + 2 ≤ b ∨ b + 2 ≤ a) (w : UInt16) :
    (m.storeWord a w).word b = m.word b := by
  have hbyte : ∀ x, x < a ∨ a + 2 ≤ x → (m.storeWord a w).byte x = m.byte x :=
    fun x hx => byte_store_other hx
  rw [word, word, hbyte b (by omega), hbyte (b + 1) (by omega)]

end Memory

/-! ## Stack words -/

namespace Frame

/-- Where the stack pointer has moved to, the words above it are those that were below. -/
theorem popAddress_sub (f f' : Frame) (hss : f'.ss = f.ss) {below above : UInt16}
    (hsp : f'.sp + above = f.sp - below) : f'.popAddress above = f.pushAddress below := by
  rw [popAddress, pushAddress, hss, hsp]

/-- Two stack words a few bytes apart do not touch, also where the stack pointer wraps. -/
theorem pushAddress_disjoint (f : Frame) {i j : UInt16} (h : i.toNat + 2 ≤ j.toNat)
    (hj : j.toNat ≤ i.toNat + 65534) :
    f.pushAddress i + 2 ≤ f.pushAddress j ∨ f.pushAddress j + 2 ≤ f.pushAddress i := by
  have hbound := j.toNat_lt
  have hsp := f.sp.toNat_lt
  rw [pushAddress, pushAddress, linear, linear, UInt16.toNat_sub, UInt16.toNat_sub]
  omega

end Frame

/-! ## An interrupt and its return -/

namespace Guest

variable {g : Guest} {vector : UInt8}

/-- Where an interrupt goes. -/
def target (g : Guest) (vector : UInt8) : FarPointer :=
  ⟨g.memory.word (4 * vector.toNat + 2), g.memory.word (4 * vector.toNat)⟩

/-- The memory with an interrupt's words on the stack. -/
def pushed (g : Guest) : Memory :=
  ((g.memory.storeWord (g.frame.pushAddress 2) g.frame.flags).storeWord (g.frame.pushAddress 4)
    g.frame.cs).storeWord (g.frame.pushAddress 6) g.frame.ip

/-- The guest at the beginning of a handler. -/
def entered (g : Guest) (vector : UInt8) : Guest :=
  { g with
    frame := { g.frame with
      cs := (g.target vector).segment
      ip := (g.target vector).offset
      sp := g.frame.sp - 6
      flags := Frame.handlerFlags g.frame.flags }
    memory := g.pushed
    injected := g.injected + 1
    lastVector := some vector }

/-- All words that an interrupt touches lie in memory. -/
structure HasRoom (g : Guest) (vector : UInt8) : Prop where
  offset : g.memory.Fits (4 * vector.toNat) 2
  segment : g.memory.Fits (4 * vector.toNat + 2) 2
  stack : ∀ below ∈ [2, 4, 6], g.memory.Fits (g.frame.pushAddress below) 2

theorem pushWords_eq {m : Memory} {words : List (Nat × UInt16)}
    (h : ∀ p ∈ words, m.Fits p.1 2) :
    pushWords m words = (.ok (), words.foldl (fun m p => m.storeWord p.1 p.2) m) := by
  induction words generalizing m with
  | nil => rfl
  | cons p words ih =>
    obtain ⟨hfirst, hrest⟩ := List.forall_mem_cons.1 h
    rw [pushWords, Memory.writeWord_eq hfirst]
    exact ih fun q hq => (Memory.fits_storeWord p.2).2 (hrest q hq)

theorem pushWords_interruptWords
    (h : ∀ below ∈ [2, 4, 6], g.memory.Fits (g.frame.pushAddress below) 2) :
    pushWords g.memory (interruptWords g.frame) = (.ok (), g.pushed) := by
  refine pushWords_eq ?_
  simpa [interruptWords] using h

theorem interrupt_eq (hresumable : g.isResumable = true) (h : g.HasRoom vector) :
    g.interrupt vector = (.ok (), g.entered vector) := by
  have htarget : g.memory.readVector vector = .ok (g.target vector) := by
    rw [Memory.readVector, Memory.readWord_eq h.offset, Memory.readWord_eq h.segment]
    rfl
  have hframe : g.pushFrame vector = (.ok (g.target vector), g.pushed) := by
    rw [pushFrame, htarget]
    dsimp only
    rw [pushWords_interruptWords h.stack]
    rfl
  rw [interrupt, if_pos hresumable, hframe]
  rfl

@[simp] theorem size_pushed (g : Guest) : g.pushed.size = g.memory.size := by simp [pushed]

/-- The words of an interrupt do not overwrite each other. -/
theorem word_pushed (g : Guest) : ∀ p ∈ interruptWords g.frame, g.pushed.word p.1 = p.2 := by
  have hdisjoint : ∀ i j : UInt16, i.toNat + 2 ≤ j.toNat → j.toNat ≤ 6 →
      g.frame.pushAddress j + 2 ≤ g.frame.pushAddress i ∨
        g.frame.pushAddress i + 2 ≤ g.frame.pushAddress j := by
    intro i j hij hj
    exact (g.frame.pushAddress_disjoint hij (by omega)).symm
  have h42 := hdisjoint 2 4 (by decide) (by decide)
  have h62 := hdisjoint 2 6 (by decide) (by decide)
  have h64 := hdisjoint 4 6 (by decide) (by decide)
  simp only [interruptWords, List.forall_mem_cons, List.not_mem_nil, false_imp_iff, implies_true,
    and_true]
  unfold pushed
  refine ⟨?_, ?_, ?_⟩
  · rw [Memory.word_storeWord_other h62, Memory.word_storeWord_other h42,
      Memory.word_storeWord_self]
  · rw [Memory.word_storeWord_other h64, Memory.word_storeWord_self]
  · rw [Memory.word_storeWord_self]

/-- A return takes back the registers of `g` from a stack on which an interrupt has left them. -/
theorem iret_of_words {g' : Guest} (hss : g'.frame.ss = g.frame.ss)
    (hsp : g'.frame.sp = g.frame.sp - 6)
    (hfits : ∀ below ∈ [2, 4, 6], g'.memory.Fits (g.frame.pushAddress below) 2)
    (hwords : ∀ p ∈ interruptWords g.frame, g'.memory.word p.1 = p.2) :
    g'.iret = (.ok (), { g' with
      frame := { g.frame with flags := g.frame.flags ||| Frame.reservedFlag } }) := by
  have hread : ∀ above below : UInt16, below ∈ [2, 4, 6] → above + below = 6 →
      g'.memory.readWord (g'.frame.popAddress above) =
        .ok (g'.memory.word (g.frame.pushAddress below)) := by
    intro above below hbelow hsum
    have habove : g'.frame.sp + above = g.frame.sp - below := by
      rw [hsp]
      grind
    rw [Frame.popAddress_sub g.frame g'.frame hss habove]
    exact Memory.readWord_eq (hfits below hbelow)
  obtain ⟨hflags, hcs, hip⟩ : g'.memory.word (g.frame.pushAddress 2) = g.frame.flags ∧
      g'.memory.word (g.frame.pushAddress 4) = g.frame.cs ∧
      g'.memory.word (g.frame.pushAddress 6) = g.frame.ip := by
    simpa [interruptWords] using hwords
  have hframe : g'.popFrame =
      .ok { g.frame with flags := g.frame.flags ||| Frame.reservedFlag } := by
    have hback : g'.frame.sp + 6 = g.frame.sp := by rw [hsp, UInt16.sub_add_cancel]
    rw [popFrame, hread 0 6 (by decide) (by decide), hread 2 4 (by decide) (by decide),
      hread 4 2 (by decide) (by decide), hflags, hcs, hip]
    show Except.ok _ = Except.ok _
    dsimp only
    rw [hback, hss]
  rw [iret, hframe]

/-- **The return** from an interrupt gives back the registers, with the reserved flag set. -/
theorem iret_entered (g : Guest) (vector : UInt8)
    (h : ∀ below ∈ [2, 4, 6], g.memory.Fits (g.frame.pushAddress below) 2) :
    (g.entered vector).iret =
      (.ok (), { g.entered vector with
        frame := { g.frame with flags := g.frame.flags ||| Frame.reservedFlag } }) := by
  refine iret_of_words rfl rfl (fun below hbelow => ?_) g.word_pushed
  show g.pushed.Fits _ 2
  rw [Memory.Fits, size_pushed]
  exact h below hbelow

end Guest
end RealModeMonitor
