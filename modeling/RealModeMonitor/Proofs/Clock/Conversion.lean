import Mathlib.Algebra.Order.Floor.Div
import RealModeMonitor.Clock

/-!
# Counts and ticks

A count is turned into ticks by rounding up, and ticks into counts by rounding down. Going there and
back may lose something, but the two agree on when a count is over: `t` ticks are enough for `p`
counts exactly if `p` counts pass in `t` ticks (`ticksOfCounts_le_iff`). This holds as long as the
ticks are not cut to 32 bits, so for everything a channel can count (`fits_of_le`). Ticks that are
cut are the most that 32 bits can tell (`ticksOfCounts_of_not_fits`).
-/

namespace RealModeMonitor.Clock

variable {k : Clock} {p p' t t' : UInt32}

/-- The ticks that `p` counts need can be told in 32 bits. -/
def Fits (k : Clock) (p : UInt32) : Prop :=
  p.toNat * k.hz.toNat ≤ (UInt32.size - 1) * timerInputHz

theorem fits_of_le (k : Clock) (h : p.toNat ≤ 65536) : k.Fits p :=
  calc p.toNat * k.hz.toNat ≤ 65536 * 2 ^ 32 := Nat.mul_le_mul h k.hz.toNat_lt.le
    _ ≤ (UInt32.size - 1) * timerInputHz := by decide

theorem timerInputHz_pos : 0 < timerInputHz := by decide

/-! ## Rounding up -/

theorem ceilDiv_le_iff {n m : Nat} : n ⌈/⌉ timerInputHz ≤ m ↔ n ≤ timerInputHz * m :=
  ceilDiv_le_iff_le_mul timerInputHz_pos

theorem toNat_ticksOfCounts_of_ne_zero (k : Clock) (hp : p ≠ 0) :
    (k.ticksOfCounts p).toNat =
      max 1 (min (p.toNat * k.hz.toNat ⌈/⌉ timerInputHz) (UInt32.size - 1)) := by
  have hexact : (p.toNat * k.hz.toNat + (timerInputHz - 1)) / timerInputHz =
      p.toNat * k.hz.toNat ⌈/⌉ timerInputHz := by
    rw [Nat.ceilDiv_eq_add_pred_div, Nat.add_sub_assoc timerInputHz_pos]
  rw [ticksOfCounts, if_neg hp]
  dsimp only
  rw [hexact, UInt32.toNat_ofNat_of_lt']
  simp only [UInt32.size]
  omega

/-- On a clock that runs, the lower bound on the number of ticks does not matter. -/
theorem toNat_ticksOfCounts_eq_min (hhz : k.hz ≠ 0) :
    (k.ticksOfCounts p).toNat =
      min (p.toNat * k.hz.toNat ⌈/⌉ timerInputHz) (UInt32.size - 1) := by
  by_cases hp : p = 0
  · subst hp
    simp [ticksOfCounts]
  have hpos : 0 < p.toNat * k.hz.toNat := by
    refine Nat.mul_pos ?_ ?_ <;> rw [Nat.pos_iff_ne_zero]
    · exact fun hzero => hp (UInt32.toNat_inj.1 hzero)
    · exact fun hzero => hhz (UInt32.toNat_inj.1 hzero)
  have hleast : 1 ≤ p.toNat * k.hz.toNat ⌈/⌉ timerInputHz := by
    rw [Nat.one_le_iff_ne_zero, ← Nat.pos_iff_ne_zero, ← not_le, ceilDiv_le_iff]
    omega
  rw [toNat_ticksOfCounts_of_ne_zero k hp, Nat.max_eq_right (Nat.le_min.2 ⟨hleast, by decide⟩)]

/-- Neither bound on the number of ticks matters. -/
theorem toNat_ticksOfCounts (hhz : k.hz ≠ 0) (hfits : k.Fits p) :
    (k.ticksOfCounts p).toNat = p.toNat * k.hz.toNat ⌈/⌉ timerInputHz := by
  rw [toNat_ticksOfCounts_eq_min hhz]
  exact Nat.min_eq_left (ceilDiv_le_iff.2 hfits)

/-- What cannot be told in 32 bits is cut to the most that can. -/
theorem ticksOfCounts_of_not_fits (hhz : k.hz ≠ 0) (h : ¬k.Fits p) :
    k.ticksOfCounts p = 0xFFFFFFFF := by
  have hover : UInt32.size - 1 ≤ p.toNat * k.hz.toNat ⌈/⌉ timerInputHz :=
    Nat.le_of_not_le fun hle => h (ceilDiv_le_iff.1 hle)
  rw [← UInt32.toNat_inj, toNat_ticksOfCounts_eq_min hhz, Nat.min_eq_right hover]
  rfl

theorem ticksOfCounts_mono (k : Clock) (h : p ≤ p') : k.ticksOfCounts p ≤ k.ticksOfCounts p' := by
  by_cases hp : p = 0
  · subst hp
    exact UInt32.zero_le
  have hp' : p' ≠ 0 := fun hzero => hp (UInt32.le_zero_iff.1 (hzero ▸ h))
  have hceil : p.toNat * k.hz.toNat ⌈/⌉ timerInputHz ≤ p'.toNat * k.hz.toNat ⌈/⌉ timerInputHz :=
    (gc_mul_ceilDiv timerInputHz_pos).monotone_l
      (Nat.mul_le_mul_right _ (UInt32.le_iff_toNat_le.1 h))
  rw [UInt32.le_iff_toNat_le, toNat_ticksOfCounts_of_ne_zero k hp,
    toNat_ticksOfCounts_of_ne_zero k hp']
  exact max_le_max_left 1 (min_le_min_right _ hceil)

/-! ## There and back -/

/-- **A count is over** after the ticks it is turned into, and not before. -/
theorem ticksOfCounts_le_iff (hhz : k.hz ≠ 0) (hfits : k.Fits p) :
    k.ticksOfCounts p ≤ t ↔ p.toNat ≤ k.countsOfTicks t := by
  have hpos : 0 < k.hz.toNat := Nat.pos_of_ne_zero fun hzero => hhz (UInt32.toNat_inj.1 hzero)
  have hticks : k.ticksOfCounts p ≤ t ↔ p.toNat * k.hz.toNat ≤ timerInputHz * t.toNat := by
    rw [UInt32.le_iff_toNat_le, toNat_ticksOfCounts hhz hfits, ceilDiv_le_iff]
  have hcounts : p.toNat ≤ k.countsOfTicks t ↔ p.toNat * k.hz.toNat ≤ t.toNat * timerInputHz := by
    rw [countsOfTicks, Nat.max_eq_left hpos, Nat.le_div_iff_mul_le hpos]
  rw [hticks, hcounts, Nat.mul_comm timerInputHz]

theorem countsOfTicks_mono (k : Clock) (h : t ≤ t') : k.countsOfTicks t ≤ k.countsOfTicks t' :=
  Nat.div_le_div_right (Nat.mul_le_mul_right _ (UInt32.le_iff_toNat_le.1 h))

end RealModeMonitor.Clock
