import RealModeMonitor.IntervalTimer.Channel

/-!
# Expiry as a loop

A channel works out by one division how often it is due. The plain way is a loop: while an
interval has passed since `start`, expire once and, if the channel is periodic, start again an
interval later (`catchUp`).

**Distances.** The distance to `start` is measured on a counter that wraps. It shrinks by an
interval with every turn of the loop (`toNat_ticksSince_add`), which is why the loop ends, and why
it takes as many turns as the quotient says.

Main result: `catchUp_eq_expire`, the loop and the division agree in every state.
-/

namespace RealModeMonitor

theorem ticksSince_add (start d : UInt32) : ticksSince (start + d) start = d := by
  unfold ticksSince
  grind

/-- A start that moves closer to now by no more than the distance does not pass it. -/
theorem toNat_ticksSince_add {now start d : UInt32} (h : d ≤ ticksSince now start) :
    (ticksSince now (start + d)).toNat = (ticksSince now start).toNat - d.toNat := by
  have hsub : ticksSince now (start + d) = ticksSince now start - d :=
    UInt32.toBitVec_inj.1 (BitVec.sub_sub now.toBitVec start.toBitVec d.toBitVec).symm
  rw [hsub, UInt32.toNat_sub_of_le _ _ h]

namespace Channel

variable {c : Channel} {now : UInt32}

/-! ## Firing -/

@[simp] theorem mode_fired (c : Channel) (n : Nat) : (c.fired n).mode = c.mode := by
  unfold fired
  split <;> rfl

@[simp] theorem access_fired (c : Channel) (n : Nat) : (c.fired n).access = c.access := by
  unfold fired
  split <;> rfl

@[simp] theorem interval_fired (c : Channel) (n : Nat) : (c.fired n).interval = c.interval := by
  unfold fired
  split <;> rfl

@[simp] theorem expirations_fired (c : Channel) (n : Nat) :
    (c.fired n).expirations = c.expirations + n := by
  unfold fired
  split <;> rfl

@[simp] theorem pendingLow_fired (c : Channel) (n : Nat) :
    (c.fired n).pendingLow = c.pendingLow := by
  unfold fired
  split <;> rfl

@[simp] theorem isHeld_fired (c : Channel) (n : Nat) : (c.fired n).isHeld = c.isHeld := by
  unfold fired
  split <;> rfl

theorem start_fired (h : c.mode.isPeriodic = true) (n : Nat) :
    (c.fired n).start = c.start + c.interval * UInt32.ofNat n := by
  rw [fired, if_pos h]

theorem armed_fired (h : c.mode.isPeriodic = true) (n : Nat) : (c.fired n).armed = c.armed := by
  rw [fired, if_pos h]

/-- A channel that is not periodic expires once. -/
theorem armed_fired_one (h : c.mode.isPeriodic = false) : (c.fired 1).armed = false := by
  simp [fired, h]

@[simp] theorem fired_zero (c : Channel) : c.fired 0 = c := by
  unfold fired
  split <;> simp

theorem fired_fired (c : Channel) (m n : Nat) : (c.fired m).fired n = c.fired (m + n) := by
  cases hperiodic : c.mode.isPeriodic with
  | true => simp [fired, hperiodic, UInt32.mul_add, UInt32.add_assoc, Nat.add_assoc]
  | false =>
    have hidle : (m + n == 0) = (m == 0 && n == 0) := by
      rw [Bool.eq_iff_iff]
      simp
    simp [fired, hperiodic, hidle, Nat.add_assoc, Bool.and_assoc]

/-! ## One turn -/

/-- Whether the channel may expire and an interval has passed since `start`. -/
def isDue (c : Channel) (now : UInt32) : Bool :=
  c.armed && !c.isHeld && c.interval != 0 && decide (c.interval ≤ ticksSince now c.start)

theorem isDue_iff :
    c.isDue now = true ↔
      c.armed = true ∧ c.isHeld = false ∧ c.interval ≠ 0 ∧
        c.interval ≤ ticksSince now c.start := by
  simp [isDue, and_assoc]

theorem toNat_interval_pos (h : c.interval ≠ 0) : 0 < c.interval.toNat :=
  Nat.pos_of_ne_zero fun hzero => h (UInt32.toNat_inj.1 hzero)

/-- How far the channel is behind, or 0 if it does not run. -/
def lag (c : Channel) (now : UInt32) : Nat :=
  if c.armed then (ticksSince now c.start).toNat + 1 else 0

theorem toNat_ticksSince_fired (h : c.isDue now = true) (hperiodic : c.mode.isPeriodic = true) :
    (ticksSince now (c.fired 1).start).toNat =
      (ticksSince now c.start).toNat - c.interval.toNat := by
  obtain ⟨-, -, -, hle⟩ := isDue_iff.1 h
  rw [start_fired hperiodic, UInt32.ofNat_one, UInt32.mul_one, toNat_ticksSince_add hle]

theorem lag_fired (h : c.isDue now = true) : (c.fired 1).lag now < c.lag now := by
  obtain ⟨harmed, -, hinterval, hle⟩ := isDue_iff.1 h
  have hpos := toNat_interval_pos hinterval
  have hle := UInt32.le_iff_toNat_le.1 hle
  cases hperiodic : c.mode.isPeriodic with
  | true =>
    have hdistance := toNat_ticksSince_fired h hperiodic
    rw [lag, lag, armed_fired hperiodic, harmed, if_pos rfl, if_pos rfl]
    omega
  | false =>
    rw [lag, lag, armed_fired_one hperiodic, harmed, if_pos rfl, if_neg Bool.false_ne_true]
    omega

/-! ## The loop -/

/-- Expire once for every interval that has passed. -/
def catchUp (c : Channel) (now : UInt32) : Nat × Channel :=
  if _h : c.isDue now then
    let (n, c') := (c.fired 1).catchUp now
    (n + 1, c')
  else (0, c)
termination_by c.lag now
decreasing_by exact lag_fired _h

theorem firings_of_runs (harmed : c.armed = true) (hheld : c.isHeld = false)
    (hinterval : c.interval ≠ 0) :
    c.firings now =
      if c.mode.isPeriodic then (ticksSince now c.start).toNat / c.interval.toNat
      else min ((ticksSince now c.start).toNat / c.interval.toNat) 1 := by
  simp [firings, harmed, hheld, hinterval]

theorem firings_of_not_isDue (h : c.isDue now = false) : c.firings now = 0 := by
  unfold firings
  split
  next hruns =>
    have hlt : (ticksSince now c.start).toNat < c.interval.toNat := by
      simp only [isDue, hruns, Bool.true_and, decide_eq_false_iff_not, UInt32.not_le] at h
      exact UInt32.lt_iff_toNat_lt.1 h
    simp [Nat.div_eq_of_lt hlt]
  next => rfl

theorem expire_of_not_isDue (h : c.isDue now = false) : c.expire now = (0, c) := by
  rw [expire, firings_of_not_isDue h, fired_zero]

/-- A held channel does not fire and is left as it is. -/
theorem expire_of_isHeld (h : c.isHeld = true) : c.expire now = (0, c) :=
  expire_of_not_isDue (by simp [isDue, h])

theorem firings_of_isDue (h : c.isDue now = true) (hperiodic : c.mode.isPeriodic = true) :
    c.firings now = (c.fired 1).firings now + 1 := by
  obtain ⟨harmed, hheld, hinterval, hle⟩ := isDue_iff.1 h
  have hquotient := Nat.div_eq_sub_div (toNat_interval_pos hinterval)
    (UInt32.le_iff_toNat_le.1 hle)
  have hnext : (c.fired 1).firings now = _ := firings_of_runs
    (by rw [armed_fired hperiodic, harmed]) (by rw [isHeld_fired, hheld]) (by rwa [interval_fired])
  rw [firings_of_runs harmed hheld hinterval, hnext, mode_fired, hperiodic, if_pos rfl, if_pos rfl,
    toNat_ticksSince_fired h hperiodic, interval_fired, hquotient]

theorem firings_of_isDue_once (h : c.isDue now = true) (hperiodic : c.mode.isPeriodic = false) :
    c.firings now = 1 ∧ (c.fired 1).firings now = 0 := by
  obtain ⟨harmed, hheld, hinterval, hle⟩ := isDue_iff.1 h
  have hquotient := Nat.div_pos (UInt32.le_iff_toNat_le.1 hle) (toNat_interval_pos hinterval)
  refine ⟨?_, by simp [firings, armed_fired_one hperiodic]⟩
  rw [firings_of_runs harmed hheld hinterval, hperiodic, if_neg Bool.false_ne_true]
  exact Nat.min_eq_right hquotient

/-- **The loop and the division agree.** -/
theorem catchUp_eq_expire (c : Channel) (now : UInt32) : c.catchUp now = c.expire now := by
  fun_induction catchUp c now with
  | case1 c h n c' hrest ih =>
    rw [hrest] at ih
    obtain ⟨rfl, rfl⟩ := Prod.mk.inj ih
    cases hperiodic : c.mode.isPeriodic with
    | true =>
      rw [expire, firings_of_isDue h hperiodic, fired_fired, Nat.add_comm 1]
    | false =>
      obtain ⟨hone, hnone⟩ := firings_of_isDue_once h hperiodic
      rw [expire, hone, hnone, fired_zero]
  | case2 c h => exact (expire_of_not_isDue (Bool.eq_false_iff.2 h)).symm

end Channel
end RealModeMonitor
