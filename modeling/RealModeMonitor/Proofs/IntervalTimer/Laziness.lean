import RealModeMonitor.Proofs.IntervalTimer.Counting
import RealModeMonitor.Proofs.IntervalTimer.Latching

/-!
# What lazy expiry shows

A channel is brought up to date only now and then, and a control word that latches its count or its
status does not do it. The guest might tell by what is latched whether the timer was up to date.

**Counts** do not tell, where the host clock runs at the rate of the timer's input: an interval
takes as many ticks as counts, so the expirations of a periodic channel are what its count leaves
out by going round, and a channel that expires once shows 0 before and after (`count_expire`).

**Statuses** do. The output of a channel that rises at its terminal count is read off from whether
the channel is armed, and until it is brought up to date it is: its output shows low although its
count is used up (`isOverdue`, `out_of_isOverdue`). Every other status is the same
(`status_expire`).

Main result: `latched_values_agree`; the exception is real (`low_at_terminal_count`).
-/

namespace RealModeMonitor

/-! ## A clock at the rate of the timer's input -/

namespace Clock

variable {k : Clock} {p t : UInt32}

theorem countsOfTicks_of_hz (hhz : k.hz.toNat = timerInputHz) (t : UInt32) :
    k.countsOfTicks t = t.toNat := by
  rw [countsOfTicks, hhz, Nat.max_eq_left timerInputHz_pos, Nat.mul_div_cancel _ timerInputHz_pos]

theorem ticksOfCounts_of_hz (hhz : k.hz.toNat = timerInputHz) (h : p.toNat ≤ 65536) :
    k.ticksOfCounts p = p := by
  have hne : k.hz ≠ 0 := by
    intro hzero
    rw [hzero] at hhz
    exact absurd hhz (by decide)
  have hiff : ∀ t, k.ticksOfCounts p ≤ t ↔ p ≤ t := fun t => by
    rw [ticksOfCounts_le_iff hne (k.fits_of_le h), countsOfTicks_of_hz hhz, UInt32.le_iff_toNat_le]
  exact UInt32.le_antisymm ((hiff p).2 (UInt32.le_refl p)) ((hiff _).1 (UInt32.le_refl _))

end Clock

/-- Whether the output stays low until the count is used up, and is high from then on. -/
def TimerMode.risesAtEnd : TimerMode → Bool
  | interruptOnTerminalCount | hardwareOneShot => true
  | rateGenerator | squareWave | softwareStrobe | hardwareStrobe => false

namespace Channel

variable {c : Channel} {k : Clock} {now : UInt32}

/-! ## Invariants -/

/-- An armed channel has taken over its reload, unless a new one is half written. Control words
leave the two high bits of a status free. -/
structure Loaded (c : Channel) : Prop where
  nullCount : c.armed = true → c.pendingLow = none → c.nullCount = false
  control : Byte.bit c.control 7 = false

theorem Loaded.fired (h : c.Loaded) (n : Nat) : (c.fired n).Loaded := by
  unfold Channel.fired
  split
  · exact ⟨h.nullCount, h.control⟩
  · exact ⟨fun harmed => h.nullCount (Bool.and_eq_true_iff.1 harmed).1, h.control⟩

theorem Loaded.read (h : c.Loaded) : (c.read k).2.Loaded := by
  unfold Channel.read
  split
  · exact ⟨h.nullCount, h.control⟩
  · dsimp only
    split <;> exact ⟨h.nullCount, h.control⟩

theorem Loaded.write (h : c.Loaded) (value : UInt8) : (c.write k value).2.Loaded := by
  unfold Channel.write
  split
  · exact ⟨fun _ _ => rfl, h.control⟩
  · exact ⟨fun _ _ => rfl, h.control⟩
  · exact ⟨nofun, h.control⟩
  · exact ⟨fun _ _ => rfl, h.control⟩

theorem loaded_program (c : Channel) (control : UInt8) (access : ByteAccess) :
    (c.program control access).Loaded := by
  refine ⟨nofun, ?_⟩
  show Byte.bit (control &&& 0x3F) 7 = false
  rw [Byte.bit_and, show Byte.bit 0x3F 7 = false from rfl, Bool.and_false]

theorem preserved_loaded : IntervalTimer.Preserved fun _ c => c.Loaded where
  advance _ _ _ h := h
  expire _ _ h := h.fired _
  read _ _ h := h.read
  latchCount _ _ h := by
    unfold latchCount
    split <;> exact ⟨h.nullCount, h.control⟩
  latchStatus _ _ h := by
    unfold latchStatus
    split <;> exact ⟨h.nullCount, h.control⟩
  program _ c control access _ := c.loaded_program control access
  write _ _ value h := h.write value
  watch _ _ _ h := ⟨h.nullCount, h.control⟩
  stop _ _ h := ⟨nofun, h.control⟩

theorem loaded_fresh : Loaded {} := ⟨nofun, rfl⟩

/-! ## Counts -/

/-- A channel that expires once is idle then. -/
theorem expire_of_isDue_once (h : c.isDue now = true) (hperiodic : c.mode.isPeriodic = false) :
    (c.expire now).2 = c.fired 1 := by
  show c.fired (c.firings now) = c.fired 1
  rw [(firings_of_isDue_once h hperiodic).1]

/-- What a periodic channel makes up for are whole periods. -/
theorem passed_expire (hhz : k.hz.toNat = timerInputHz) (htimed : c.Timed k)
    (hdue : c.isDue k.now = true) (hperiodic : c.mode.isPeriodic = true) :
    (c.expire k.now).2.passed k % c.period.toNat = c.passed k % c.period.toNat := by
  obtain ⟨harmed, hheld, hinterval, -⟩ := isDue_iff.1 hdue
  have hnear : c.Near k.now k.now := by
    intro _
    rw [show ticksSince k.now k.now = 0 from UInt32.sub_self k.now]
    exact (ticksSince k.now c.start).toNat_lt
  have hperiod : c.interval.toNat = c.period.toNat := by
    rw [htimed harmed, Clock.ticksOfCounts_of_hz hhz c.toNat_period_le]
  have hmul : c.period.toNat * c.firings k.now ≤ (ticksSince k.now c.start).toNat := by
    rw [firings_of_runs harmed hheld hinterval, if_pos hperiodic, hperiod]
    exact Nat.mul_div_le _ _
  -- The start moves on by whole intervals, and at this rate an interval is a period.
  have hstart := toNat_ticksSince_fired_firings hperiodic harmed hheld hinterval hnear
  rw [passed, passed, Clock.countsOfTicks_of_hz hhz, Clock.countsOfTicks_of_hz hhz]
  show (ticksSince k.now (c.fired (c.firings k.now)).start).toNat % _ = _
  rw [hstart, hperiod, Nat.sub_mul_mod hmul]

/-- **The count** does not tell whether the channel is up to date. -/
theorem count_expire (hhz : k.hz.toNat = timerInputHz) (htimed : c.Timed k) (hloaded : c.Loaded) :
    (c.expire k.now).2.count k = c.count k := by
  cases hdue : c.isDue k.now with
  | false => rw [expire_of_not_isDue hdue]
  | true =>
    obtain ⟨harmed, hheld, hinterval, hle⟩ := isDue_iff.1 hdue
    cases hperiodic : c.mode.isPeriodic with
    | true =>
      have hpassed := passed_expire hhz htimed hdue hperiodic
      have harmed' : (c.expire k.now).2.armed = true := (armed_fired hperiodic _).trans harmed
      have hperiodic' : (c.expire k.now).2.mode.isPeriodic = true :=
        (congrArg TimerMode.isPeriodic (mode_fired c _)).trans hperiodic
      have hperiod : (c.expire k.now).2.period = c.period := period_fired c _
      rw [count_of_armed harmed', count_of_armed harmed, remaining, if_pos hperiodic', hperiod,
        hpassed, remaining, if_pos hperiodic]
    | false =>
      -- Nothing is left of the count; an idle channel that took over its reload shows 0.
      have hlow : c.pendingLow = none := by
        rw [isHeld, Bool.or_eq_false_iff] at hheld
        exact Option.isSome_eq_false_iff.1 hheld.1 |> Option.isNone_iff_eq_none.1
      have hne : k.hz ≠ 0 := by
        intro hzero
        rw [hzero] at hhz
        exact absurd hhz (by decide)
      have hused : c.remaining k = 0 := by
        rw [remaining_once hperiodic, Nat.sub_eq_zero_iff_le]
        exact (interval_le_iff hne htimed harmed).1 hle
      have hidle : (c.fired 1).nullCount = false := by
        simp [fired, hperiodic, hloaded.nullCount harmed hlow]
      rw [expire_of_isDue_once hdue hperiodic, count, armed_fired_one hperiodic, hidle,
        count_of_armed harmed, hused]
      rfl

/-! ## Statuses -/

/-- Whether the output is to rise and does not show it yet. -/
def isOverdue (c : Channel) (now : UInt32) : Bool := c.mode.risesAtEnd && c.isDue now

/-- An overdue channel shows a low output. -/
theorem out_of_isOverdue (h : c.isOverdue now = true) : c.out k = false := by
  obtain ⟨hmode, hdue⟩ := Bool.and_eq_true_iff.1 h
  obtain ⟨harmed, -⟩ := isDue_iff.1 hdue
  unfold out
  cases hmode' : c.mode with
  | interruptOnTerminalCount | hardwareOneShot => simp [harmed]
  | rateGenerator | squareWave | softwareStrobe | hardwareStrobe =>
    rw [hmode'] at hmode
    cases hmode

theorem out_expire (hhz : k.hz.toNat = timerInputHz) (htimed : c.Timed k) (hloaded : c.Loaded) :
    (c.expire k.now).2.out k = (c.out k || c.isOverdue k.now) := by
  have hcount := count_expire hhz htimed hloaded
  have hmode : (c.expire k.now).2.mode = c.mode := mode_fired c _
  have hperiod : (c.expire k.now).2.period = c.period := period_fired c _
  cases hdue : c.isDue k.now with
  | false => rw [expire_of_not_isDue hdue, isOverdue, hdue, Bool.and_false, Bool.or_false]
  | true =>
    obtain ⟨harmed, -⟩ := isDue_iff.1 hdue
    rw [isOverdue, hdue, Bool.and_true, out, hmode, out]
    cases hmode' : c.mode with
    | interruptOnTerminalCount | hardwareOneShot =>
      have hidle : (c.expire k.now).2.armed = false := by
        rw [expire_of_isDue_once hdue (by rw [hmode']; rfl)]
        exact armed_fired_one (by rw [hmode']; rfl)
      simp [hidle, TimerMode.risesAtEnd]
    | squareWave =>
      have harmed' : (c.expire k.now).2.armed = true :=
        (armed_fired (by rw [hmode']; rfl) _).trans harmed
      simp [hcount, hperiod, harmed, harmed', TimerMode.risesAtEnd]
    | rateGenerator | softwareStrobe | hardwareStrobe => rfl

theorem control_fired (c : Channel) (n : Nat) : (c.fired n).control = c.control := by
  unfold fired
  split <;> rfl

theorem nullCount_fired (c : Channel) (n : Nat) : (c.fired n).nullCount = c.nullCount := by
  unfold fired
  split <;> rfl

/-- **The status** tells by the output of an overdue channel alone. -/
theorem status_expire (hhz : k.hz.toNat = timerInputHz) (htimed : c.Timed k) (hloaded : c.Loaded) :
    (c.expire k.now).2.status k =
      if c.isOverdue k.now then c.status k ||| 0x80 else c.status k := by
  have hcontrol : (c.expire k.now).2.control = c.control := control_fired c _
  have hnull : (c.expire k.now).2.nullCount = c.nullCount := nullCount_fired c _
  rw [status, hcontrol, hnull, out_expire hhz htimed hloaded, status]
  cases hoverdue : c.isOverdue k.now with
  | false => rw [Bool.or_false, if_neg Bool.false_ne_true]
  | true =>
    rw [out_of_isOverdue hoverdue, Bool.or_true, if_pos rfl, if_pos rfl, if_neg Bool.false_ne_true,
      UInt8.or_zero, UInt8.or_assoc, UInt8.or_assoc, UInt8.or_comm 0x80]

theorem bit_status_of_isOverdue (hloaded : c.Loaded) (h : c.isOverdue now = true) :
    Byte.bit (c.status k) 7 = false := by
  have hnull : Byte.bit (if c.nullCount then 0x40 else 0) 7 = false := by split <;> rfl
  rw [status, out_of_isOverdue h, Byte.bit_or, Byte.bit_or, hloaded.control, hnull]
  rfl

end Channel

/-! ## Commands after a tick, and without one -/

namespace IntervalTimer

open Channel

variable {i : Fin 3} {k : Clock} {value : UInt8} {c : Channel}

theorem countLatch_takeControl (i : Fin 3) (k : Clock) (value : UInt8) (c : Channel) :
    (takeControl i k value c).countLatch =
      if programs i value then none
      else if latchesCount i value then some (c.countLatch.getD (c.count k))
      else c.countLatch := by
  obtain ⟨access, htake, hprograms, -⟩ | ⟨hprograms, htake⟩ := takeControl_eq i k value c
  · rw [htake, if_pos hprograms]
    rfl
  · rw [htake, hprograms, if_neg Bool.false_ne_true]
    cases latchesCount i value <;> cases latchesStatus i value <;>
      simp [countLatch_latchCount, countLatch_latchStatus]

theorem statusLatch_takeControl (i : Fin 3) (k : Clock) (value : UInt8) (c : Channel) :
    (takeControl i k value c).statusLatch =
      if latchesStatus i value then some (c.statusLatch.getD (c.status k)) else c.statusLatch := by
  obtain ⟨access, htake, -, hstatus⟩ | ⟨-, htake⟩ := takeControl_eq i k value c
  · rw [htake, hstatus, if_neg Bool.false_ne_true]
    rfl
  · rw [htake]
    cases latchesCount i value <;> cases latchesStatus i value <;>
      simp [statusLatch_latchStatus, statusLatch_latchCount, status_latchCount]

namespace Setting

variable {s : Setting}

/-- Whether a control word has the status of channel `i` latched while its output is to rise and
does not show it. -/
def latchesLow (s : Setting) (i : Fin 3) (value : UInt8) : Bool :=
  latchesStatus i value && (s.channel i).statusLatch.isNone && (s.channel i).isOverdue s.clock.now

/-- **What is latched** is the same with a tick before the command and without one, where the host
clock runs at the rate of the timer's input, except for the output of an overdue channel: it is
latched low, and high after a tick. -/
theorem latched_values_agree (hs : s.Reachable) (hhz : s.clock.hz.toNat = timerInputHz)
    (i : Fin 3) (value : UInt8) :
    let latched := (s.step (.write controlPort value)).channel i
    let ticked := ((s.step .tick).step (.write controlPort value)).channel i
    ticked.countLatch = latched.countLatch ∧
    (s.latchesLow i value = false → ticked.statusLatch = latched.statusLatch) ∧
    (s.latchesLow i value = true →
      ∃ status, latched.statusLatch = some status ∧ Byte.bit status 7 = false ∧
        ticked.statusLatch = some (status ||| 0x80)) := by
  intro latched ticked
  have htimed : (s.channel i).Timed s.clock :=
    hs.induction Channel.preserved_timed (fun _ => nofun) i
  have hloaded : (s.channel i).Loaded :=
    hs.induction Channel.preserved_loaded (fun _ => loaded_fresh) i
  have hlatched : latched = takeControl i s.clock value (s.channel i) := channel_step _ _ _
  have hticked : ticked = takeControl i s.clock value ((s.channel i).expire s.clock.now).2 := by
    have hclock : (s.step .tick).clock = s.clock := clock_step s .tick
    have htick : (s.step .tick).channel i = ((s.channel i).expire s.clock.now).2 :=
      channel_step s .tick i
    rw [← htick, ← hclock]
    exact channel_step _ _ _
  have hcountLatch : ((s.channel i).expire s.clock.now).2.countLatch = (s.channel i).countLatch :=
    countLatch_fired _ _
  have hstatusLatch :
      ((s.channel i).expire s.clock.now).2.statusLatch = (s.channel i).statusLatch :=
    statusLatch_fired _ _
  have hstatus := status_expire hhz htimed hloaded
  refine ⟨?_, fun hlow => ?_, fun hlow => ?_⟩
  · rw [hticked, hlatched, countLatch_takeControl, countLatch_takeControl, hcountLatch,
      count_expire hhz htimed hloaded]
  · rw [hticked, hlatched, statusLatch_takeControl, statusLatch_takeControl, hstatusLatch, hstatus]
    cases hlatches : latchesStatus i value with
    | false => rfl
    | true =>
      cases hkept : (s.channel i).statusLatch with
      | some status => rfl
      | none =>
        have hoverdue : (s.channel i).isOverdue s.clock.now = false := by
          simpa [latchesLow, hlatches, hkept] using hlow
        rw [hoverdue, if_neg Bool.false_ne_true]
  · obtain ⟨⟨hlatches, hkept⟩, hoverdue⟩ :
        (latchesStatus i value = true ∧ (s.channel i).statusLatch = none) ∧
          (s.channel i).isOverdue s.clock.now = true := by
      simpa [latchesLow] using hlow
    refine ⟨(s.channel i).status s.clock, ?_, bit_status_of_isOverdue hloaded hoverdue, ?_⟩
    · rw [hlatched, statusLatch_takeControl, if_pos hlatches, hkept, Option.getD_none]
    · rw [hticked, statusLatch_takeControl, if_pos hlatches, hstatusLatch, hkept, Option.getD_none,
        hstatus, if_pos hoverdue]

/-- A count of 2 is used up, and nobody has looked. Channel 0 is a one-shot, channel 2 a square
wave that counts 3. -/
def countUsedUp : Setting :=
  let b : Bus := {
    vm := ⟨0, 0⟩
    clock := { hz := 1193182 }
    guest := { memory := .blank 0 }
    controller := none }
  run ⟨initial, b⟩
    [.write 0x43 0x30, .write 0x40 2, .write 0x40 0, .write 0x43 0xB6, .write 0x42 3,
      .write 0x42 0, .advance 4]

/-- A read-back of both channels latches the count 2 and the high output of the square wave, and a
low output of the one-shot. -/
theorem latched_values_of_countUsedUp :
    let latched := countUsedUp.step (.write controlPort 0xCA)
    let ticked := (countUsedUp.step .tick).step (.write controlPort 0xCA)
    (ticked.channel 2).countLatch = some 2 ∧ (ticked.channel 2).statusLatch = some 0xB6 ∧
      (latched.channel 0).statusLatch = some 0x30 ∧
      (ticked.channel 0).statusLatch = some 0xB0 := by
  intro latched ticked
  have hs : countUsedUp.Reachable := ⟨_, _, rfl⟩
  obtain ⟨hcount, hstatus, -⟩ := latched_values_agree hs (by decide) 2 0xCA
  obtain ⟨-, -, hlow⟩ := latched_values_agree hs (by decide) 0 0xCA
  obtain ⟨status, hlatched, -, hticked⟩ := hlow (by decide)
  have hvalue : (latched.channel 0).statusLatch = some 0x30 := by decide
  obtain rfl : status = 0x30 := Option.some.inj (hlatched.symm.trans hvalue)
  exact ⟨hcount.trans (by decide), (hstatus (by decide)).trans (by decide), hvalue, hticked⟩

/-- **Statuses tell**: a one-shot whose count is used up reports a low output as long as nothing has
brought it up to date. -/
theorem low_at_terminal_count :
    ¬∀ (s : Setting) (i : Fin 3) (value : UInt8), s.Reachable → s.clock.hz.toNat = timerInputHz →
      (∀ j, (s.channel j).isHeld = false ∧ (s.channel j).readsHigh = false) →
      (((s.step .tick).step (.write controlPort value)).channel i).statusLatch =
        ((s.step (.write controlPort value)).channel i).statusLatch := by
  intro h
  have hs : countUsedUp.Reachable := ⟨_, _, rfl⟩
  have hsame := h countUsedUp 0 0xE2 hs (by decide) (by decide)
  exact absurd hsame (by decide)

end Setting
end IntervalTimer
end RealModeMonitor
