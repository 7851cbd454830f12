/-!
# Bytes, their bits, and words made of them

Controller registers are bytes with one bit per line. Registers of 16 bits are reached one byte
at a time, low byte first, so words are taken apart and put together from two bytes.

Bits are numbered from 0, the least significant. The laws say that setting and clearing one bit
leaves the others alone, that `lowest` and `first?` find the lowest set bit, and that a word is
exactly its two bytes.
-/

namespace RealModeMonitor.Byte

/-! ## Bits -/

/-- Bit `i` of `b`; bits from 8 on are clear. -/
def bit (b : UInt8) (i : Nat) : Bool := b.toNat.testBit i

/-- The byte in which only bit `i` is set. -/
def single (i : Fin 8) : UInt8 := 1 <<< UInt8.ofNat i

/-- `b` with bit `i` set. -/
def setBit (b : UInt8) (i : Fin 8) : UInt8 := b ||| single i

/-- `b` with bit `i` clear. -/
def clearBit (b : UInt8) (i : Fin 8) : UInt8 := b &&& (255 ^^^ single i)

theorem bit_single (i : Fin 8) (j : Nat) : bit (single i) j = decide (i.val = j) := by
  have hpow : ∀ i : Fin 8, (single i).toNat = 2 ^ i.val := by decide
  rw [bit, hpow, Nat.testBit_two_pow]

theorem bit_eq_false_of_le (b : UInt8) {j : Nat} (h : 8 ≤ j) : bit b j = false := by
  have hb : b.toNat < 2 ^ 8 := b.toNat_lt
  exact Nat.testBit_lt_two_pow (Nat.lt_of_lt_of_le hb (Nat.pow_le_pow_right (by decide) h))

@[simp] theorem bit_zero (j : Nat) : bit 0 j = false := by simp [bit]

theorem bit_full : ∀ j : Fin 8, bit 255 j = true := by decide

@[simp] theorem bit_setBit (b : UInt8) (i : Fin 8) (j : Nat) :
    bit (setBit b i) j = (bit b j || decide (i.val = j)) := by
  have h : (setBit b i).toNat = b.toNat ||| (single i).toNat := by simp [setBit]
  rw [bit, h, Nat.testBit_or, ← bit, ← bit, bit_single]

@[simp] theorem bit_clearBit (b : UInt8) (i : Fin 8) (j : Nat) :
    bit (clearBit b i) j = (bit b j && !decide (i.val = j)) := by
  rcases Nat.lt_or_ge j 8 with hj | hj
  · have h : (clearBit b i).toNat = b.toNat &&& ((255 : UInt8).toNat ^^^ (single i).toNat) := by
      simp [clearBit]
    rw [bit, h, Nat.testBit_and, Nat.testBit_xor, ← bit, ← bit, ← bit, bit_single,
      bit_full ⟨j, hj⟩, Bool.true_xor]
  · rw [bit_eq_false_of_le _ hj, bit_eq_false_of_le _ hj, Bool.false_and]

theorem bit_or (a b : UInt8) (j : Nat) : bit (a ||| b) j = (bit a j || bit b j) := by simp [bit]

theorem bit_and (a b : UInt8) (j : Nat) : bit (a &&& b) j = (bit a j && bit b j) := by simp [bit]

theorem bit_not (b : UInt8) (j : Fin 8) : bit (~~~b) j = !bit b j := by
  have h : ∀ (v : BitVec 8) (j : Fin 8), bit (~~~⟨v⟩) j = !bit ⟨v⟩ j := by decide +kernel
  exact h b.toBitVec j

/-! ## The lowest set bit -/

/-- The byte in which only the lowest set bit of `b` is set. If `b` is 0, so is it. -/
def lowest (b : UInt8) : UInt8 := b &&& -b

/-- The number of the lowest set bit. -/
def first? (b : UInt8) : Option (Fin 8) := (List.finRange 8).find? fun i => bit b i

/-- One less than `lowest b` has the bits below every set bit of `b`; for 0, which wraps, all. -/
theorem bit_lowest_sub_one (b : UInt8) (j : Fin 8) :
    bit (lowest b - 1) j = decide (∀ i ≤ j, bit b i = false) := by
  have h : ∀ (v : BitVec 8) (j : Fin 8),
      bit (lowest ⟨v⟩ - 1) j = decide (∀ i ≤ j, bit ⟨v⟩ i = false) := by decide +kernel
  exact h b.toBitVec j

theorem first?_eq_some_iff {b : UInt8} {i : Fin 8} :
    first? b = some i ↔ bit b i = true ∧ ∀ j < i, bit b j = false := by
  simp only [first?, List.find?_eq_some_iff_getElem, List.getElem_finRange, List.length_finRange]
  constructor
  · rintro ⟨hi, n, hn, rfl, hbelow⟩
    exact ⟨hi, fun j hj => by simpa using hbelow j hj⟩
  · rintro ⟨hi, hbelow⟩
    exact ⟨hi, i, i.isLt, rfl, fun j hj => by simpa using hbelow ⟨j, by omega⟩ hj⟩

theorem first?_eq_none_iff {b : UInt8} : first? b = none ↔ ∀ i : Fin 8, bit b i = false := by
  simp [first?]

/-! ## Words -/

/-- The word whose low byte is `low` and whose high byte is `high`. -/
def word (low high : UInt8) : UInt16 := UInt16.ofNat (low.toNat + 256 * high.toNat)

def lowByte (w : UInt16) : UInt8 := UInt8.ofNat w.toNat

def highByte (w : UInt16) : UInt8 := UInt8.ofNat (w.toNat / 256)

theorem toNat_word (low high : UInt8) :
    (word low high).toNat = low.toNat + 256 * high.toNat := by
  have hl := low.toNat_lt
  have hh := high.toNat_lt
  simp only [word, UInt16.toNat_ofNat']
  omega

@[simp] theorem lowByte_word (low high : UInt8) : lowByte (word low high) = low := by
  have hl := low.toNat_lt
  apply UInt8.toNat_inj.1
  simp only [lowByte, UInt8.toNat_ofNat', toNat_word]
  omega

@[simp] theorem highByte_word (low high : UInt8) : highByte (word low high) = high := by
  have hl := low.toNat_lt
  have hh := high.toNat_lt
  apply UInt8.toNat_inj.1
  simp only [highByte, UInt8.toNat_ofNat', toNat_word]
  omega

@[simp] theorem word_lowByte_highByte (w : UInt16) : word (lowByte w) (highByte w) = w := by
  have hw := w.toNat_lt
  apply UInt16.toNat_inj.1
  simp only [toNat_word, lowByte, highByte, UInt8.toNat_ofNat']
  omega

/-! ## One byte of a word, chosen by a flip-flop -/

/-- The high byte of `w` if `high`, else the low byte. -/
def select (w : UInt16) (high : Bool) : UInt8 := if high then highByte w else lowByte w

/-- `w` with the byte chosen by `high` replaced by `b`. -/
def merge (w : UInt16) (b : UInt8) (high : Bool) : UInt16 :=
  if high then word (lowByte w) b else word b (highByte w)

end RealModeMonitor.Byte
