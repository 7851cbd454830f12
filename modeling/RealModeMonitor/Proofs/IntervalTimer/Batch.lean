import Mathlib
import RealModeMonitor.Proofs.IntervalTimer.Expiry
import RealModeMonitor.Proofs.IntervalTimer.Run

/-!
# Expiry in one go or in two

Whether a timer is brought up to date at one tick and again at a later one, or at the later one
alone, comes to the same. A channel that fires some intervals at the first tick has so many left
at the second (`firings_eq_add`), and what firing makes of it adds up (`fired_fired`). A channel
that was held or idle at the first tick is so at the second, because nothing happened in between.

The counter must not go round between the channel's start and the later tick (`Near`): the
quotient of a distance that wrapped has lost an unknown number of intervals, and so has the sum of
two distances that did not.

**The bus.** All that expiry does to the rest of the session is to raise the timer's line, as often
as channel 0 is due (`val_runExpiry`), and to tell the watchers (`events_runExpiry`).
-/

namespace RealModeMonitor

namespace Channel

variable {c : Channel} {now later : UInt32}

/-! ## Channels -/

/-- The counter does not go round on the way from the channel's start over `now` to `later`. -/
def Near (c : Channel) (now later : UInt32) : Prop :=
  c.armed = true →
    (ticksSince now c.start).toNat + (ticksSince later now).toNat < UInt32.size

theorem toNat_ticksSince_later {start : UInt32}
    (h : (ticksSince now start).toNat + (ticksSince later now).toNat < UInt32.size) :
    (ticksSince later start).toNat =
      (ticksSince now start).toNat + (ticksSince later now).toNat := by
  have hsum : ticksSince later start = ticksSince now start + ticksSince later now := by
    unfold ticksSince
    grind
  rw [hsum, UInt32.toNat_add, Nat.mod_eq_of_lt h]

theorem firings_idle (h : c.armed = false ∨ c.isHeld = true ∨ c.interval = 0) :
    c.firings now = 0 := by
  refine firings_of_not_isDue ?_
  rcases h with h | h | h <;> simp [isDue, h]

/-- What a periodic channel fired at `now` is taken off the distance. -/
theorem toNat_ticksSince_fired_firings (hperiodic : c.mode.isPeriodic = true)
    (harmed : c.armed = true) (hheld : c.isHeld = false) (hinterval : c.interval ≠ 0)
    (h : c.Near now later) :
    (ticksSince later (c.fired (c.firings now)).start).toNat =
      (ticksSince later c.start).toNat - c.interval.toNat * c.firings now := by
  have hlater := toNat_ticksSince_later (h harmed)
  have hfirings : c.firings now = (ticksSince now c.start).toNat / c.interval.toNat := by
    rw [firings_of_runs harmed hheld hinterval, if_pos hperiodic]
  have hmul : c.interval.toNat * c.firings now ≤ (ticksSince now c.start).toNat := by
    rw [hfirings]
    exact Nat.mul_div_le _ _
  have hlt := (ticksSince now c.start).toNat_lt
  have hcount : c.firings now < 2 ^ 32 := by
    rw [hfirings]
    exact Nat.lt_of_le_of_lt (Nat.div_le_self _ _) hlt
  have hproduct : (c.interval * UInt32.ofNat (c.firings now)).toNat =
      c.interval.toNat * c.firings now := by
    rw [UInt32.toNat_mul, UInt32.toNat_ofNat_of_lt' hcount, Nat.mod_eq_of_lt (by omega)]
  rw [start_fired hperiodic, toNat_ticksSince_add, hproduct]
  rw [UInt32.le_iff_toNat_le, hproduct, hlater]
  omega

/-- **The firings add up.** -/
theorem firings_eq_add (h : c.Near now later) :
    c.firings later = c.firings now + (c.fired (c.firings now)).firings later := by
  by_cases hidle : c.armed = false ∨ c.isHeld = true ∨ c.interval = 0
  · rw [firings_idle hidle, firings_idle hidle, fired_zero, firings_idle hidle]
  obtain ⟨harmed, hheld, hinterval⟩ : c.armed = true ∧ c.isHeld = false ∧ c.interval ≠ 0 := by
    simpa using hidle
  have hlater := toNat_ticksSince_later (h harmed)
  have hpos := toNat_interval_pos hinterval
  have hfirings : ∀ t, c.firings t = _ := fun _ => firings_of_runs harmed hheld hinterval
  cases hperiodic : c.mode.isPeriodic with
  | true =>
    have hdistance := toNat_ticksSince_fired_firings hperiodic harmed hheld hinterval h
    have hrest : (c.fired (c.firings now)).firings later = _ := firings_of_runs
      (by rw [armed_fired hperiodic, harmed]) (by rw [isHeld_fired, hheld])
      (by rwa [interval_fired])
    have hle : c.firings now ≤ (ticksSince later c.start).toNat / c.interval.toNat := by
      rw [hfirings now, if_pos hperiodic, hlater]
      exact Nat.div_le_div_right (Nat.le_add_right _ _)
    rw [hrest, mode_fired, if_pos hperiodic, hdistance, interval_fired, Nat.sub_mul_div,
      hfirings later, if_pos hperiodic]
    omega
  | false =>
    rw [hfirings now, hfirings later, hperiodic, if_neg Bool.false_ne_true,
      if_neg Bool.false_ne_true]
    by_cases hdue : (ticksSince now c.start).toNat / c.interval.toNat = 0
    · rw [hdue, Nat.zero_min, fired_zero, hfirings later, hperiodic, if_neg Bool.false_ne_true,
        Nat.zero_add]
    · have hdue' : (ticksSince now c.start).toNat / c.interval.toNat ≤
          (ticksSince later c.start).toNat / c.interval.toNat := by
        rw [hlater]
        exact Nat.div_le_div_right (Nat.le_add_right _ _)
      have hone := Nat.one_le_iff_ne_zero.2 hdue
      rw [Nat.min_eq_right hone, Nat.min_eq_right (Nat.le_trans hone hdue'),
        firings_idle (.inl (armed_fired_one hperiodic))]

/-- What expiry makes of a channel does not tell how often it was looked at. -/
theorem expire_expire (h : c.Near now later) :
    ((c.expire now).2.expire later).2 = (c.expire later).2 := by
  show (c.fired (c.firings now)).fired ((c.fired (c.firings now)).firings later) =
    c.fired (c.firings later)
  rw [fired_fired, ← firings_eq_add h]

@[simp] theorem watcher_fired (c : Channel) (n : Nat) : (c.fired n).watcher = c.watcher := by
  unfold fired
  split <;> rfl

end Channel

/-! ## Guests are interrupted in silence -/

theorem Guest.events_inject (g : Guest) (vector : UInt8) : (g.inject vector).events = [] := by
  unfold inject
  dsimp only
  split <;> rfl

theorem InterruptController.events_deliver (c : InterruptController) (vm : VmId) (g : Guest) :
    (c.deliver vm g).events = [] := by
  unfold deliver
  split
  · rfl
  · rw [Traced.events_bind, Guest.events_inject]
    split <;> rfl

theorem InterruptController.events_raise (c : InterruptController) (vm : VmId) (number : UInt8)
    (g : Guest) : (c.raise vm number g).events = [] := by
  unfold raise
  split
  · rfl
  · split
    · rfl
    · rw [Traced.events_bind, events_deliver]
      rfl

theorem Bus.events_raise (b : Bus) (line : UInt8) : (b.raise line).events = [] := by
  unfold raise
  split
  · rfl
  · rw [Traced.events_bind, InterruptController.events_raise]
    rfl

/-! ## The timer -/

namespace IntervalTimer

variable {t t' : IntervalTimer} {now later : UInt32} {i : Fin 3}

theorem ext_channel (h : ∀ i, t.channel i = t'.channel i) : t = t' := by
  obtain ⟨channels⟩ := t
  obtain ⟨channels'⟩ := t'
  congr 1
  exact Vector.ext fun i hi => h ⟨i, hi⟩

/-- The timer with every channel up to date. -/
def expired (t : IntervalTimer) (now : UInt32) : IntervalTimer :=
  ⟨t.channels.map fun c => (c.expire now).2⟩

/-- The channel that raises the timer's line is one of three. -/
theorem lineChannel_lt : 0 < 3 := Nat.zero_lt_succ 2

/-- How often the timer's line is to be raised at `now`. -/
def due (t : IntervalTimer) (now : UInt32) : Nat := (t.channel ⟨0, lineChannel_lt⟩).firings now

theorem due_eq (t : IntervalTimer) (now : UInt32) : t.due now = (t.channel 0).firings now := rfl

/-- What the watcher of a channel is told of `n` expirations. -/
def expiries (vm : VmId) (i : Fin 3) (watcher : Option String) (n : Nat) : List Event :=
  (watcher.map fun w => List.replicate n (.timerExpired vm i w)).getD []

/-- What the watchers are told at `now`. -/
def told (vm : VmId) (t : IntervalTimer) (now : UInt32) : List Event :=
  (List.finRange 3).flatMap fun i => expiries vm i (t.channel i).watcher ((t.channel i).firings now)

def Near (t : IntervalTimer) (now later : UInt32) : Prop := ∀ i, (t.channel i).Near now later

@[simp] theorem channel_expired (t : IntervalTimer) (now : UInt32) (i : Fin 3) :
    (t.expired now).channel i = ((t.channel i).expire now).2 := by
  simp [expired, channel]

theorem expired_expired (h : t.Near now later) : (t.expired now).expired later = t.expired later :=
  ext_channel fun i => by
    rw [channel_expired, channel_expired, channel_expired, Channel.expire_expire (h i)]

theorem due_eq_add (h : t.Near now later) :
    t.due later = t.due now + (t.expired now).due later := by
  rw [due_eq, Channel.firings_eq_add (h 0), due_eq, due_eq, channel_expired]
  rfl

theorem expiries_add (vm : VmId) (i : Fin 3) (watcher : Option String) (m n : Nat) :
    expiries vm i watcher (m + n) = expiries vm i watcher m ++ expiries vm i watcher n := by
  cases watcher with
  | none => rfl
  | some w => exact (List.replicate_append_replicate ..).symm

/-- The watchers are told of the same expirations, if in another order. -/
theorem told_perm (vm : VmId) (h : t.Near now later) :
    (t.told vm now ++ (t.expired now).told vm later).Perm (t.told vm later) := by
  refine (List.flatMap_append_perm _ _ _).trans ?_
  refine List.Perm.of_eq (List.flatMap_congr fun i _ => ?_)
  rw [channel_expired, Channel.firings_eq_add (h i), expiries_add]
  show _ ++ expiries vm i ((t.channel i).fired _).watcher _ = _
  rw [Channel.watcher_fired]
  rfl

/-! ## Expiry on a bus -/

/-- The bus after the timer's line was raised. -/
def pulse (b : Bus) : Bus := (raiseTimerLine b).val

theorem pulse_eq (b : Bus) : pulse b = (b.raise timerLine).val.2 := by
  unfold pulse raiseTimerLine
  simp only [Traced.val_bind]
  split <;> rfl

theorem vm_pulse (b : Bus) : (pulse b).vm = b.vm := by
  rw [pulse_eq]
  unfold Bus.raise
  cases b.controller <;> rfl

theorem vm_pulses (n : Nat) (b : Bus) : (pulse^[n] b).vm = b.vm := by
  induction n generalizing b with
  | zero => rfl
  | succ n ih => rw [Function.iterate_succ_apply, ih, vm_pulse]

theorem events_raiseTimerLine (b : Bus) : (raiseTimerLine b).events = [] := by
  unfold raiseTimerLine
  rw [Traced.events_bind, Bus.events_raise]
  dsimp only
  split <;> rfl

theorem val_signal (i : Fin 3) (watcher : Option String) (b : Bus) :
    (signal i watcher b).val = if i = 0 then pulse b else b := by
  unfold signal
  split <;> rfl

theorem events_signal (i : Fin 3) (watcher : Option String) (b : Bus) :
    (signal i watcher b).events = expiries b.vm i watcher 1 := by
  have hnotify : ∀ vm, (notify vm i watcher).events = expiries vm i watcher 1 := by
    intro vm
    cases watcher <;> rfl
  have hvm : (raiseTimerLine b).val.vm = b.vm := vm_pulse b
  unfold signal
  dsimp only
  split
  · simp [events_raiseTimerLine, hnotify, hvm]
  · simp [hnotify]

theorem times_signal (i : Fin 3) (watcher : Option String) (n : Nat) (x : Traced Bus) :
    (Traced.times (signal i watcher) n x).val = (if i = 0 then pulse^[n] x.val else x.val) ∧
      (Traced.times (signal i watcher) n x).events =
        x.events ++ expiries x.val.vm i watcher n := by
  induction n generalizing x with
  | zero => cases watcher <;> simp [Traced.times, expiries]
  | succ n ih =>
    obtain ⟨hval, hevents⟩ := ih (x >>= signal i watcher)
    have hvm : (if i = 0 then pulse x.val else x.val).vm = x.val.vm := by
      split
      · exact vm_pulse x.val
      · rfl
    rw [Traced.times, hval, hevents, Traced.val_bind, Traced.events_bind, val_signal, events_signal,
      hvm, List.append_assoc, ← expiries_add, Nat.add_comm 1]
    refine ⟨?_, rfl⟩
    split
    · rfl
    · rfl

theorem signalAll_eq (i : Fin 3) (watcher : Option String) (n : Nat) (b : Bus) :
    (signalAll i watcher n b).val = (if i = 0 then pulse^[n] b else b) ∧
      (signalAll i watcher n b).events = expiries b.vm i watcher n := by
  unfold signalAll
  split
  next => simpa using times_signal i watcher n (pure b)
  next hdeaf =>
    obtain ⟨hi, hwatcher⟩ := not_or.1 hdeaf
    obtain rfl : watcher = none := by simpa using hwatcher
    exact ⟨by rw [if_neg hi]; rfl, rfl⟩

theorem expireChannel_eq (s : IntervalTimer × Bus) (i : Fin 3) :
    (expireChannel s i).val.2 =
        (if i = 0 then pulse^[(s.1.channel i).firings s.2.clock.now] s.2 else s.2) ∧
      (expireChannel s i).events = expiries s.2.vm i (s.1.channel i).watcher
        ((s.1.channel i).firings s.2.clock.now) := by
  have h := signalAll_eq i ((s.1.channel i).fired ((s.1.channel i).firings s.2.clock.now)).watcher
    ((s.1.channel i).firings s.2.clock.now) s.2
  rw [Channel.watcher_fired] at h
  rw [← h.1, ← h.2, ← Channel.watcher_fired (s.1.channel i) ((s.1.channel i).firings s.2.clock.now)]
  exact ⟨rfl, by simp [expireChannel, Channel.expire]⟩

/-- **Expiry** brings the channels up to date, and raises the timer's line as often as channel 0
is due. -/
theorem val_runExpiry (t : IntervalTimer) (b : Bus) :
    (t.runExpiry b).val = (t.expired b.clock.now, pulse^[t.due b.clock.now] b) := by
  refine Prod.ext (ext_channel fun i => ?_) ?_
  · rw [channel_runExpiry, channel_expired]
  · have hthree : List.finRange 3 = [0, 1, 2] := by decide
    unfold runExpiry
    rw [hthree]
    simp only [List.foldlM_cons, List.foldlM_nil, Traced.val_bind, Traced.val_pure,
      (expireChannel_eq _ _).1]
    rfl

theorem events_foldlM_expireChannel {is : List (Fin 3)} (h : is.Nodup) (s : IntervalTimer × Bus) :
    (is.foldlM expireChannel s).events = is.flatMap fun i =>
      expiries s.2.vm i (s.1.channel i).watcher ((s.1.channel i).firings s.2.clock.now) := by
  induction is generalizing s with
  | nil => rfl
  | cons i is ih =>
    obtain ⟨hi, his⟩ := List.nodup_cons.1 h
    have hvm : (expireChannel s i).val.2.vm = s.2.vm := by
      rw [(expireChannel_eq s i).1]
      split
      · exact vm_pulses _ _
      · rfl
    rw [List.foldlM_cons, Traced.events_bind, ih his, (expireChannel_eq s i).2, List.flatMap_cons,
      hvm, clock_expireChannel]
    refine congrArg _ (List.flatMap_congr fun j hj => ?_)
    have hij : i ≠ j := fun hij => hi (hij ▸ hj)
    rw [channel_expireChannel, if_neg hij]

theorem events_runExpiry (t : IntervalTimer) (b : Bus) :
    (t.runExpiry b).events = t.told b.vm b.clock.now :=
  events_foldlM_expireChannel (by decide) (t, b)

end IntervalTimer
end RealModeMonitor
