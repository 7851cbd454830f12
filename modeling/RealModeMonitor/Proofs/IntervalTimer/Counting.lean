import RealModeMonitor.Proofs.Clock.Conversion
import RealModeMonitor.Proofs.IntervalTimer.Batch
import RealModeMonitor.Proofs.IntervalTimer.Schedule

/-!
# The count and the expiry agree

Whether a channel expires is decided in ticks, by its interval. What is left of its count is worked
out in counts, from the ticks that have passed. The interval was rounded up and the counts are
rounded down, at whatever rate the host clock runs, and yet the count is used up at the very tick at
which the interval is over: this is what `Clock.ticksOfCounts_le_iff` says of an armed channel
(`interval_le_iff`).

**Invariant.** The interval of an armed channel is the time its reload takes (`Timed`). Arming sets
both; a first byte of two changes neither, and a control word disarms.

**Falling.** Until the interval is over the count falls from the period to 1. A periodic channel
that was brought up to date is inside its interval, so its count does not go round before it fires
again. A channel that is held when its interval ends is not brought up to date: what it is due for
is put off, and meanwhile its count goes round and may rise (`rises_while_held`).

Main result: `count_agrees_with_expiry`.
-/

namespace RealModeMonitor

namespace Channel

variable {c : Channel} {k : Clock} {d now : UInt32}

/-! ## The interval -/

@[simp] theorem period_fired (c : Channel) (n : Nat) : (c.fired n).period = c.period := by
  unfold fired
  split <;> rfl

/-- While a channel counts, its interval is the time that its reload takes. -/
def Timed (k : Clock) (c : Channel) : Prop :=
  c.armed = true → c.interval = k.ticksOfCounts c.period

theorem SameCount.timed {c' : Channel} (h : c.SameCount c') (htimed : c.Timed k) : c'.Timed k := by
  have harmed : c'.armed = c.armed := congrArg ChannelView.armed h.view
  have hinterval : c'.interval = c.interval := congrArg ChannelView.interval h.view
  have hreload : c'.reload = c.reload := congrArg ChannelView.reload h.view
  rw [Timed, harmed, hinterval, period, hreload]
  exact htimed

theorem Timed.expire (h : c.Timed k) (now : UInt32) : (c.expire now).2.Timed k := by
  intro harmed
  show (c.fired _).interval = k.ticksOfCounts (c.fired _).period
  rw [interval_fired, period_fired]
  refine h ?_
  replace harmed : (c.fired (c.firings now)).armed = true := harmed
  unfold fired at harmed
  split at harmed
  · exact harmed
  · exact (Bool.and_eq_true_iff.1 harmed).1

theorem Timed.write (h : c.Timed k) (value : UInt8) : (c.write k value).2.Timed k := by
  unfold Channel.write
  split
  next => exact fun _ => rfl
  next => exact fun _ => rfl
  next => exact h
  next => exact fun _ => rfl

theorem preserved_timed : IntervalTimer.Preserved Timed where
  advance _ _ _ h := h
  expire k _ h := h.expire k.now
  read k c h := (c.sameCount_read k).timed h
  latchCount k c h := (c.sameCount_latchCount k).timed h
  latchStatus k c h := (c.sameCount_latchStatus k).timed h
  program _ _ _ _ _ := nofun
  write _ _ value h := h.write value
  watch _ _ _ h := h
  stop _ _ _ := nofun

theorem Timed.interval_ne_zero (h : c.Timed k) (harmed : c.armed = true) : c.interval ≠ 0 := by
  rw [h harmed]
  exact k.ticksOfCounts_ne_zero c.period_ne_zero

/-! ## Counts that passed, and counts that are left -/

/-- The counts that passed since the start. -/
def passed (c : Channel) (k : Clock) : Nat := k.countsOfTicks (ticksSince k.now c.start)

/-- The count that is left while the channel is armed, before it is cut to 16 bits. -/
def remaining (c : Channel) (k : Clock) : Nat :=
  if c.mode.isPeriodic then c.period.toNat - c.passed k % c.period.toNat
  else c.period.toNat - c.passed k

theorem count_of_armed (h : c.armed = true) : c.count k = UInt16.ofNat (c.remaining k) := by
  rw [count, if_pos h]
  rfl

theorem remaining_once (h : c.mode.isPeriodic = false) :
    c.remaining k = c.period.toNat - c.passed k := by
  simp [remaining, h]

theorem remaining_of_lt (h : c.passed k < c.period.toNat) :
    c.remaining k = c.period.toNat - c.passed k := by
  rw [remaining, Nat.mod_eq_of_lt h, ite_self]

/-- **The interval is over** exactly when the count is used up. -/
theorem interval_le_iff (hhz : k.hz ≠ 0) (htimed : c.Timed k) (harmed : c.armed = true) :
    c.interval ≤ ticksSince k.now c.start ↔ c.period.toNat ≤ c.passed k := by
  rw [htimed harmed]
  exact Clock.ticksOfCounts_le_iff hhz (k.fits_of_le c.toNat_period_le)

theorem toNat_ticksSince_advance {start : UInt32}
    (h : (ticksSince now start).toNat + d.toNat < 2 ^ 32) :
    (ticksSince (now + d) start).toNat = (ticksSince now start).toNat + d.toNat := by
  have hd := ticksSince_add now d
  have hlater := toNat_ticksSince_later (hd.symm ▸ h)
  rwa [hd] at hlater

theorem passed_advance_le (h : (ticksSince k.now c.start).toNat + d.toNat < 2 ^ 32) :
    c.passed k ≤ c.passed (k.advance d) := by
  refine Clock.countsOfTicks_mono k (UInt32.le_iff_toNat_le.2 ?_)
  rw [Clock.now_advance, toNat_ticksSince_advance h]
  exact Nat.le_add_right ..

/-! ## Firing -/

theorem firings_pos_iff (harmed : c.armed = true) (hheld : c.isHeld = false)
    (hinterval : c.interval ≠ 0) :
    0 < c.firings now ↔ c.interval ≤ ticksSince now c.start := by
  have hquotient : 0 < (ticksSince now c.start).toNat / c.interval.toNat ↔
      c.interval ≤ ticksSince now c.start := by
    rw [UInt32.le_iff_toNat_le, Nat.div_pos_iff, and_iff_right (toNat_interval_pos hinterval)]
  rw [firings_of_runs harmed hheld hinterval, ← hquotient]
  split
  · rfl
  · exact ⟨fun h => (lt_min_iff.1 h).1, fun h => lt_min_iff.2 ⟨h, Nat.one_pos⟩⟩

/-- Nothing is due that was just made up for. -/
theorem firings_expire (c : Channel) (now : UInt32) : (c.expire now).2.firings now = 0 := by
  have hnear : c.Near now now := by
    intro _
    rw [show ticksSince now now = 0 from UInt32.sub_self now]
    exact (ticksSince now c.start).toNat_lt
  exact Nat.add_eq_left.1 (firings_eq_add hnear).symm

/-- What the count of a channel shows inside its interval. -/
structure Shows (c : Channel) (k : Clock) : Prop where
  passed_lt : c.passed k < c.period.toNat
  remaining : c.remaining k = c.period.toNat - c.passed k
  one_le : 1 ≤ c.remaining k
  le_period : c.remaining k ≤ c.period.toNat
  /-- 65536 shows as 0. -/
  count : c.count k = UInt16.ofNat (c.remaining k)

theorem shows_of_lt (hhz : k.hz ≠ 0) (htimed : c.Timed k) (harmed : c.armed = true)
    (h : ticksSince k.now c.start < c.interval) : c.Shows k := by
  have hpassed : c.passed k < c.period.toNat := by
    rw [← not_le, ← interval_le_iff hhz htimed harmed]
    exact UInt32.not_le.2 h
  have hremaining := remaining_of_lt hpassed
  exact ⟨hpassed, hremaining, by omega, by omega, count_of_armed harmed⟩

/-! ## Falling -/

theorem remaining_advance_le (hhz : k.hz ≠ 0) (htimed : c.Timed k) (harmed : c.armed = true)
    (h : (ticksSince k.now c.start).toNat + d.toNat < c.interval.toNat) :
    c.remaining (k.advance d) ≤ c.remaining k := by
  have hwhole := Nat.lt_trans h c.interval.toNat_lt
  have hnow : c.Shows k := by
    refine shows_of_lt hhz htimed harmed (UInt32.lt_iff_toNat_lt.2 ?_)
    omega
  have hlater : c.Shows (k.advance d) := by
    refine shows_of_lt hhz htimed harmed (UInt32.lt_iff_toNat_lt.2 ?_)
    rw [Clock.now_advance, toNat_ticksSince_advance hwhole]
    exact h
  rw [hnow.remaining, hlater.remaining]
  exact Nat.sub_le_sub_left (passed_advance_le hwhole) _

theorem remaining_advance_le_once (hperiodic : c.mode.isPeriodic = false)
    (h : (ticksSince k.now c.start).toNat + d.toNat < 2 ^ 32) :
    c.remaining (k.advance d) ≤ c.remaining k := by
  rw [remaining_once hperiodic, remaining_once hperiodic]
  exact Nat.sub_le_sub_left (passed_advance_le h) _

/-- A channel that fires at no tick from now on is still inside its interval. -/
theorem inside_of_firings (harmed : c.armed = true) (hheld : c.isHeld = false)
    (hinterval : c.interval ≠ 0) (h : ∀ d' ≤ d, c.firings (now + d') = 0) :
    (ticksSince now c.start).toNat + d.toNat < c.interval.toNat := by
  have hinside : ∀ d' ≤ d, (ticksSince (now + d') c.start).toNat < c.interval.toNat := by
    intro d' hd'
    rw [← UInt32.lt_iff_toNat_lt, ← UInt32.not_le, ← firings_pos_iff harmed hheld hinterval,
      h d' hd']
    exact Nat.lt_irrefl 0
  have hnow := hinside 0 (UInt32.zero_le)
  rw [UInt32.add_zero] at hnow
  by_contra hover
  -- the tick at which the interval is over comes no later than `d`
  have hrest : (c.interval - ticksSince now c.start).toNat =
      c.interval.toNat - (ticksSince now c.start).toNat :=
    UInt32.toNat_sub_of_le _ _ (UInt32.le_iff_toNat_le.2 hnow.le)
  have hwhole := c.interval.toNat_lt
  have hend := hinside (c.interval - ticksSince now c.start) (by
    rw [UInt32.le_iff_toNat_le, hrest]
    omega)
  rw [toNat_ticksSince_advance (by omega)] at hend
  omega

/-! ## Agreement -/

theorem shows_expire (hhz : k.hz ≠ 0) (htimed : c.Timed k) (harmed : c.armed = true)
    (hperiodic : c.mode.isPeriodic = true) (hheld : c.isHeld = false) {t : UInt32}
    (h : (c.expire k.now).2.firings t = 0) : (c.expire k.now).2.Shows { k with now := t } := by
  have harmed' : (c.expire k.now).2.armed = true := (armed_fired hperiodic _).trans harmed
  have hheld' : (c.expire k.now).2.isHeld = false := (isHeld_fired c _).trans hheld
  have htimed' : (c.expire k.now).2.Timed { k with now := t } := htimed.expire k.now
  refine shows_of_lt hhz htimed' harmed' (UInt32.not_le.1 ?_)
  rw [← firings_pos_iff harmed' hheld' (htimed'.interval_ne_zero harmed'), h]
  exact Nat.lt_irrefl 0

/-- What the count of an armed channel has to do with its expiry. -/
structure Agrees (c : Channel) (k : Clock) : Prop where
  interval : c.interval = k.ticksOfCounts c.period
  one_le_interval : 1 ≤ c.interval.toNat
  count : c.count k = UInt16.ofNat (c.remaining k)
  fires : c.isHeld = false → (0 < (c.expire k.now).1 ↔ c.period.toNat ≤ c.passed k)
  /-- A held channel neither fires nor has its start moved. -/
  held : c.isHeld = true → c.expire k.now = (0, c)
  /-- A periodic channel that is brought up to date shows what is left until it fires again. -/
  upToDate : c.mode.isPeriodic = true → c.isHeld = false →
    (c.expire k.now).2.Shows k ∧
      ∀ t, ((c.expire k.now).2.expire t).1 = 0 → (c.expire k.now).2.Shows { k with now := t }
  /-- Any other channel is due when nothing is left. -/
  once : c.mode.isPeriodic = false → (c.remaining k = 0 ↔ c.interval ≤ ticksSince k.now c.start)
  /-- The count falls up to the next tick at which the channel fires. -/
  falls : c.isHeld = false → ∀ d, (∀ d' ≤ d, (c.expire (k.now + d')).1 = 0) →
    c.remaining (k.advance d) ≤ c.remaining k
  /-- The count of a held channel falls up to the tick at which it would have fired. -/
  falls_held : ∀ d, (ticksSince k.now c.start).toNat + d.toNat < c.interval.toNat →
    c.remaining (k.advance d) ≤ c.remaining k
  /-- One that is not periodic stays down. -/
  falls_once : c.mode.isPeriodic = false →
    ∀ d, (ticksSince k.now c.start).toNat + d.toNat < 2 ^ 32 →
      c.remaining (k.advance d) ≤ c.remaining k

theorem Timed.agrees (htimed : c.Timed k) (hhz : k.hz ≠ 0) (harmed : c.armed = true) :
    c.Agrees k := by
  have hinterval := htimed.interval_ne_zero harmed
  exact {
    interval := htimed harmed
    one_le_interval := toNat_interval_pos hinterval
    count := count_of_armed harmed
    fires := fun hheld =>
      (firings_pos_iff harmed hheld hinterval).trans (interval_le_iff hhz htimed harmed)
    held := expire_of_isHeld
    upToDate := by
      intro hperiodic hheld
      have hshows : ∀ t, (c.expire k.now).2.firings t = 0 →
          (c.expire k.now).2.Shows { k with now := t } :=
        fun t => shows_expire hhz htimed harmed hperiodic hheld
      exact ⟨hshows k.now (c.firings_expire k.now), hshows⟩
    once := by
      intro hperiodic
      rw [remaining_once hperiodic, interval_le_iff hhz htimed harmed, Nat.sub_eq_zero_iff_le]
    falls := fun hheld d h =>
      remaining_advance_le hhz htimed harmed (inside_of_firings harmed hheld hinterval h)
    falls_held := fun d h => remaining_advance_le hhz htimed harmed h
    falls_once := fun hperiodic d h => remaining_advance_le_once hperiodic h }

end Channel

namespace IntervalTimer.Setting

variable {s : Setting} {i : Fin 3}

/-- **The count and the expiry agree** for every armed channel, at every tick rate and at every
tick. -/
theorem count_agrees_with_expiry (hs : s.Reachable) (hhz : s.clock.hz ≠ 0)
    (harmed : (s.channel i).armed = true) (now : UInt32) :
    (s.channel i).Agrees { s.clock with now } := by
  have htimed : (s.channel i).Timed s.clock :=
    hs.induction Channel.preserved_timed (fun _ => nofun) i
  have htimed' : (s.channel i).Timed { s.clock with now } := htimed
  exact htimed'.agrees hhz harmed

/-- At a slow rate a full count takes a little more than one tick, so two. -/
theorem count_agrees_at_slow_rate :
    let b : Bus :=
      { vm := ⟨0, 0⟩, clock := { hz := 20 }, guest := { memory := .blank 0 }, controller := none }
    let s := run ⟨initial, b⟩ [.write 0x43 0xB4, .write 0x42 0, .write 0x42 0]
    s.clock.hz ≠ 0 ∧ (s.channel 2).armed = true ∧ (s.channel 2).Agrees { s.clock with now := 1 } ∧
      (s.channel 2).interval = 2 ∧ (s.channel 2).remaining { s.clock with now := 1 } = 5877 := by
  intro b s
  have hs : s.Reachable := ⟨_, _, rfl⟩
  have harmed : (s.channel 2).armed = true := by decide
  exact ⟨by decide, harmed, count_agrees_with_expiry hs (by decide) harmed 1, by decide, by decide⟩

/-- A count of two that takes three ticks, four ticks after it was started. A new reload is half
written. -/
def heldTooLong : Setting :=
  let b : Bus := {
    vm := ⟨0, 0⟩
    clock := { hz := 1325758 }
    guest := { memory := .blank 0 }
    controller := none }
  run ⟨initial, b⟩
    [.write 0x43 0x34, .write 0x40 2, .write 0x40 0, .write 0x40 2, .advance 4]

/-- **A held channel is an exception**: the count of a channel that is held past the end of its
interval may rise, although it does not fire and no interval ends. -/
theorem rises_while_held :
    ¬∀ (s : Setting) (i : Fin 3), s.Reachable → s.clock.hz ≠ 0 → (s.channel i).armed = true →
      ∀ d, (∀ d' ≤ d, ((s.channel i).expire (s.clock.now + d')).1 = 0 ∧
          ¬(s.channel i).interval.toNat ∣
            (ticksSince (s.clock.now + d') (s.channel i).start).toNat) →
        (s.channel i).remaining (s.clock.advance d) ≤ (s.channel i).remaining s.clock := by
  intro h
  have hs : heldTooLong.Reachable := ⟨_, _, rfl⟩
  have hidle : ∀ d' : UInt32, d' ≤ 1 →
      ((heldTooLong.channel 0).expire (heldTooLong.clock.now + d')).1 = 0 ∧
        ¬(heldTooLong.channel 0).interval.toNat ∣
          (ticksSince (heldTooLong.clock.now + d') (heldTooLong.channel 0).start).toNat := by
    intro d' hd'
    obtain rfl | rfl : d' = 0 ∨ d' = 1 := by
      have hle := UInt32.le_iff_toNat_le.1 hd'
      rw [← UInt32.toNat_inj, ← UInt32.toNat_inj]
      exact Nat.le_one_iff_eq_zero_or_eq_one.1 hle
    · exact ⟨by decide, by decide⟩
    · exact ⟨by decide, by decide⟩
  have hle := h heldTooLong 0 hs (by decide) (by decide) 1 hidle
  exact absurd hle (by decide)

end IntervalTimer.Setting
end RealModeMonitor
