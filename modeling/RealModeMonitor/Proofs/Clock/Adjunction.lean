import RealModeMonitor.Proofs.IntervalTimer.Counting

/-!
# The two conversions as an adjunction

Counts are turned into ticks by rounding up and ticks into counts by rounding down, so each is the
adjoint of the other as far as ticks can be told in 32 bits (`Clock.Fits`). Everything that a
channel counts is within that, at every tick rate: the interval of a channel is exact.

Both conversions are computed here without a limit. Words of 64 bits are wide enough for them:
`ticksInWords` and `countsInWords` compute in such words, which would wrap, and give the same.

Main result: `conversions_adjoint`.
-/

namespace RealModeMonitor

namespace Clock

variable {k : Clock} {p t : UInt32}

/-! ## In words -/

/-- The quotient, and one more if something is left. -/
def roundUp (n d : UInt64) : UInt64 := if n % d = 0 then n / d else n / d + 1

/-- Cut to 32 bits. -/
def cut (n : UInt64) : UInt32 := if n ≤ 0xFFFFFFFF then n.toUInt32 else 0xFFFFFFFF

/-- `ticksOfCounts` in words of 64 bits. -/
def ticksInWords (k : Clock) (p : UInt32) : UInt32 :=
  if p = 0 then 0
  else max 1 (cut (roundUp (p.toUInt64 * k.hz.toUInt64) (UInt64.ofNat timerInputHz)))

/-- `countsOfTicks` in words of 64 bits. -/
def countsInWords (k : Clock) (t : UInt32) : UInt64 :=
  t.toUInt64 * UInt64.ofNat timerInputHz / max k.hz.toUInt64 1

theorem product_lt (p hz : UInt32) : p.toNat * hz.toNat < 2 ^ 64 :=
  calc p.toNat * hz.toNat
      ≤ (2 ^ 32 - 1) * (2 ^ 32 - 1) :=
        Nat.mul_le_mul (Nat.le_pred_of_lt p.toNat_lt) (Nat.le_pred_of_lt hz.toNat_lt)
    _ < 2 ^ 64 := by decide

theorem product_input_lt (t : UInt32) : t.toNat * timerInputHz < 2 ^ 64 :=
  calc t.toNat * timerInputHz
      ≤ (2 ^ 32 - 1) * timerInputHz := Nat.mul_le_mul_right _ (Nat.le_pred_of_lt t.toNat_lt)
    _ < 2 ^ 64 := by decide

theorem toNat_product (p hz : UInt32) :
    (p.toUInt64 * hz.toUInt64).toNat = p.toNat * hz.toNat := by
  simp only [UInt64.toNat_mul, UInt32.toNat_toUInt64]
  exact Nat.mod_eq_of_lt (product_lt p hz)

theorem toNat_input : (UInt64.ofNat timerInputHz).toNat = timerInputHz := by decide

theorem toNat_roundUp (n : UInt64) :
    (roundUp n (UInt64.ofNat timerInputHz)).toNat = n.toNat ⌈/⌉ timerInputHz := by
  have hn := n.toNat_lt
  have hrest : (n % UInt64.ofNat timerInputHz).toNat = n.toNat % timerInputHz := by
    rw [UInt64.toNat_mod, toNat_input]
  rw [Nat.ceilDiv_eq_add_pred_div]
  unfold roundUp
  by_cases h : n % UInt64.ofNat timerInputHz = 0
  · rw [h] at hrest
    rw [if_pos h, UInt64.toNat_div, toNat_input]
    simp only [UInt64.toNat_zero, timerInputHz] at hrest ⊢
    omega
  · have hne : (n % UInt64.ofNat timerInputHz).toNat ≠ 0 :=
      fun hzero => h (UInt64.toNat_inj.1 hzero)
    rw [hrest] at hne
    rw [if_neg h, UInt64.toNat_add, UInt64.toNat_div, toNat_input, UInt64.toNat_one]
    simp only [timerInputHz] at hne ⊢
    omega

theorem toNat_cut (n : UInt64) : (cut n).toNat = min n.toNat (UInt32.size - 1) := by
  unfold cut
  by_cases h : n ≤ 0xFFFFFFFF
  · have hle : n.toNat ≤ UInt32.size - 1 := UInt64.le_iff_toNat_le.1 h
    rw [if_pos h, UInt64.toNat_toUInt32, Nat.min_eq_left hle]
    exact Nat.mod_eq_of_lt (Nat.lt_of_le_of_lt hle (by decide))
  · have hlt : UInt32.size - 1 < n.toNat := UInt64.lt_iff_toNat_lt.1 (UInt64.not_le.1 h)
    rw [if_neg h, Nat.min_eq_right hlt.le]
    rfl

/-- **No product wraps** on the way from counts to ticks. -/
theorem ticksInWords_eq (k : Clock) (p : UInt32) : k.ticksInWords p = k.ticksOfCounts p := by
  by_cases hp : p = 0
  · simp [ticksInWords, ticksOfCounts, hp]
  · rw [← UInt32.toNat_inj, toNat_ticksOfCounts_of_ne_zero k hp, ticksInWords, if_neg hp,
      UInt32.toNat_max, toNat_cut, toNat_roundUp, toNat_product]
    rfl

/-- **No product wraps** on the way from ticks to counts. -/
theorem toNat_countsInWords (k : Clock) (t : UInt32) :
    (k.countsInWords t).toNat = k.countsOfTicks t := by
  rw [countsInWords, UInt64.toNat_div, UInt64.toNat_mul, UInt64.toNat_max, UInt32.toNat_toUInt64,
    UInt32.toNat_toUInt64, toNat_input, Nat.mod_eq_of_lt (product_input_lt t)]
  rfl

end Clock

/-! ## Intervals -/

/-- The interval of a channel that counts is the time its reload takes, rounded up and not cut. -/
theorem IntervalTimer.Setting.toNat_interval {s : Setting} {i : Fin 3} (hs : s.Reachable)
    (hhz : s.clock.hz ≠ 0) (harmed : (s.channel i).armed = true) :
    (s.channel i).interval.toNat =
      (s.channel i).period.toNat * s.clock.hz.toNat ⌈/⌉ timerInputHz := by
  have htimed : (s.channel i).Timed s.clock :=
    hs.induction Channel.preserved_timed (fun _ => nofun) i
  rw [htimed harmed]
  exact Clock.toNat_ticksOfCounts hhz (Clock.fits_of_le _ (s.channel i).toNat_period_le)

namespace Clock

/-! ## The adjunction -/

/-- **The conversions are adjoint.** On a clock that runs, `t` ticks are enough for `p` counts
exactly if `p` counts pass in `t` ticks, as far as the ticks for `p` counts can be told in 32 bits.
No product on the way needs more than 64 bits, so words of 64 bits give the same. The ticks for all
that a channel counts can be told, so no interval is cut; where they cannot be told, the conversion
gives the most that can. Both conversions are monotone. -/
theorem conversions_adjoint (k : Clock) (hhz : k.hz ≠ 0) :
    (∀ p t, k.Fits p → (k.ticksOfCounts p ≤ t ↔ p.toNat ≤ k.countsOfTicks t)) ∧
    (∀ p t : UInt32, p.toNat * k.hz.toNat < 2 ^ 64 ∧ t.toNat * timerInputHz < 2 ^ 64) ∧
    (∀ p t, k.ticksInWords p = k.ticksOfCounts p ∧ (k.countsInWords t).toNat = k.countsOfTicks t) ∧
    (∀ p : UInt32, p.toNat ≤ 65536 → k.Fits p) ∧
    (∀ (s : IntervalTimer.Setting) (i : Fin 3), s.Reachable → s.clock.hz = k.hz →
      (s.channel i).armed = true → k.Fits (s.channel i).period ∧
        (s.channel i).interval.toNat =
          (s.channel i).period.toNat * k.hz.toNat ⌈/⌉ timerInputHz) ∧
    (∀ p, ¬k.Fits p → k.ticksOfCounts p = 0xFFFFFFFF) ∧
    (∀ p p', p ≤ p' → k.ticksOfCounts p ≤ k.ticksOfCounts p') ∧
    (∀ t t', t ≤ t' → k.countsOfTicks t ≤ k.countsOfTicks t') := by
  refine ⟨fun p t hfits => ticksOfCounts_le_iff hhz hfits,
    fun p t => ⟨product_lt p k.hz, product_input_lt t⟩,
    fun p t => ⟨k.ticksInWords_eq p, k.toNat_countsInWords t⟩, fun p => k.fits_of_le, ?_,
    fun p => ticksOfCounts_of_not_fits hhz, fun p p' => k.ticksOfCounts_mono,
    fun t t' => k.countsOfTicks_mono⟩
  intro s i hs hclock harmed
  refine ⟨k.fits_of_le (s.channel i).toNat_period_le, ?_⟩
  rw [← hclock] at hhz ⊢
  exact IntervalTimer.Setting.toNat_interval hs hhz harmed

/-- On the fastest clock, the longest count whose ticks can be told, the one after it, and a channel
with a full count. -/
theorem conversions_adjoint_on_fastest :
    let k : Clock := { hz := 0xFFFFFFFF }
    let b : Bus := { vm := ⟨0, 0⟩, clock := k, guest := { memory := .blank 0 }, controller := none }
    let s : IntervalTimer.Setting :=
      .run ⟨.initial, b⟩ [.write 0x43 0xB4, .write 0x42 0, .write 0x42 0]
    k.hz ≠ 0 ∧ k.Fits 1193182 ∧
      (k.ticksOfCounts 1193182 ≤ 0xFFFFFFFE ↔ 1193182 ≤ k.countsOfTicks 0xFFFFFFFE) ∧
      ¬k.Fits 1193183 ∧ k.ticksOfCounts 1193183 = 0xFFFFFFFF ∧
      k.ticksOfCounts 1193182 ≤ k.ticksOfCounts 1193183 ∧ k.Fits 65536 ∧
      s.Reachable ∧ s.clock.hz = k.hz ∧ (s.channel 2).armed = true ∧
      (s.channel 2).interval.toNat = 235902802 := by
  intro k b s
  have hhz : k.hz ≠ 0 := by decide
  have hfits : k.Fits 1193182 := by unfold Fits; decide
  have hover : ¬k.Fits 1193183 := by unfold Fits; decide
  have hs : s.Reachable := ⟨_, _, rfl⟩
  have harmed : (s.channel 2).armed = true := by decide
  obtain ⟨hadjoint, -, -, hlow, hinterval, hcut, hmono, -⟩ := conversions_adjoint k hhz
  refine ⟨hhz, hfits, hadjoint _ _ hfits, hover, hcut _ hover, hmono _ _ (by decide),
    hlow _ (by decide), hs, rfl, harmed, ?_⟩
  exact (hinterval s 2 hs rfl harmed).2.trans (by decide)

end Clock
end RealModeMonitor
