import Mathlib.Algebra.Ring.Nat
import RealModeMonitor.Proofs.IntervalTimer.Expiry
import RealModeMonitor.Proofs.IntervalTimer.Run

/-!
# The schedule of a periodic channel

A periodic channel that was armed at tick `s` is due at `s + interval`, `s + 2 * interval` and so
on. It is looked at only now and then, and may be held by a half-finished read when it is; what it
is due for stays due. The host clock wraps, but the ticks that pass can be counted without a limit
(`elapsed`).

**Invariant.** `OnSchedule c₀ total fired k c`: since it was armed as `c₀` the channel fired
`fired` times, its start moved that many intervals, and `total` ticks passed. An evaluation raises
`fired` to the quotient of `total` by the interval (`OnSchedule.expire`); nothing else that leaves
the channel alone touches it (`onSchedule_step`).

Main result: `fires_once_per_interval`. After every evaluation the firings are that quotient,
however often the clock wrapped and wherever it was looked at in between.
-/

namespace RealModeMonitor

/-! ## Arming -/

namespace Clock

/-- A count above zero takes some time, at every tick rate. -/
theorem ticksOfCounts_ne_zero (k : Clock) {p : UInt32} (h : p ≠ 0) : k.ticksOfCounts p ≠ 0 := by
  unfold ticksOfCounts
  rw [if_neg h]
  intro hzero
  have hvalue := congrArg UInt32.toNat hzero
  dsimp only at hvalue
  rw [UInt32.toNat_ofNat_of_lt' (by simp only [UInt32.size]; omega), UInt32.toNat_zero] at hvalue
  omega

end Clock

namespace Channel

variable {c : Channel} {k : Clock} {value : UInt8}

theorem period_ne_zero (c : Channel) : c.period ≠ 0 := by
  unfold period
  split
  next => decide
  next h =>
    intro hzero
    exact h (UInt16.toNat_inj.1 (by simpa using congrArg UInt32.toNat hzero))

theorem toNat_period_le (c : Channel) : c.period.toNat ≤ 65536 := by
  unfold period
  split
  · decide
  · rw [UInt16.toNat_toUInt32]
    exact Nat.le_of_lt c.reload.toNat_lt

/-- The low byte of a reload waits for the high one only where both are transferred. -/
def Orderly (c : Channel) : Prop := c.access ≠ .lowHigh → c.pendingLow = none

theorem Orderly.write (h : c.Orderly) : (c.write k value).2.Orderly := by
  unfold Channel.write
  split
  next haccess => exact fun _ => h (by simp [haccess])
  next haccess => exact fun _ => h (by simp [haccess])
  next haccess _ => exact fun hne => absurd haccess hne
  next haccess _ => exact fun hne => absurd haccess hne

/-- Whether the high byte of a latched count is still to be read. -/
def isHalfRead (c : Channel) : Bool := c.countLatch.isSome && c.readsHigh

theorem isHeld_eq_isHalfRead (h : c.pendingLow = none) : c.isHeld = c.isHalfRead := by
  rw [isHeld, h, Option.isSome_none, Bool.false_or, isHalfRead]

/-- What holds right after a reload is complete. -/
theorem armed_of_write (h : c.Orderly) (harms : (c.write k value).1 = true) :
    (c.write k value).2.armed = true ∧ (c.write k value).2.pendingLow = none ∧
    (c.write k value).2.mode = c.mode ∧ (c.write k value).2.start = k.now ∧
    (c.write k value).2.interval = k.ticksOfCounts (c.write k value).2.period := by
  unfold Channel.write at harms ⊢
  split at harms <;> simp_all [arm, Orderly, period]

theorem orderly_expire (h : c.Orderly) (now : UInt32) : (c.expire now).2.Orderly := by
  show ((c.fired _).access ≠ .lowHigh → (c.fired _).pendingLow = none)
  rw [access_fired, pendingLow_fired]
  exact h

/-! ## What leaves a channel alone -/

/-- `c'` counts as `c` does. They may differ in what is latched, and in who watches. -/
structure SameCount (c c' : Channel) : Prop where
  view : c'.view = c.view
  pendingLow : c'.pendingLow = c.pendingLow

theorem SameCount.refl (c : Channel) : c.SameCount c := ⟨rfl, rfl⟩

theorem SameCount.trans {c' c'' : Channel} (h : c.SameCount c') (h' : c'.SameCount c'') :
    c.SameCount c'' :=
  ⟨h'.view.trans h.view, h'.pendingLow.trans h.pendingLow⟩

theorem sameCount_read (c : Channel) (k : Clock) : c.SameCount (c.read k).2 := by
  unfold read
  split
  · exact ⟨rfl, rfl⟩
  · dsimp only
    split <;> exact ⟨rfl, rfl⟩

theorem sameCount_latchCount (c : Channel) (k : Clock) : c.SameCount (c.latchCount k) := by
  unfold latchCount
  split <;> exact ⟨rfl, rfl⟩

theorem sameCount_latchStatus (c : Channel) (k : Clock) : c.SameCount (c.latchStatus k) := by
  unfold latchStatus
  split <;> exact ⟨rfl, rfl⟩

theorem SameCount.orderly {c' : Channel} (h : c.SameCount c') (horderly : c.Orderly) :
    c'.Orderly := by
  have haccess : c'.access = c.access := congrArg ChannelView.access h.view
  rw [Orderly, haccess, h.pendingLow]
  exact horderly

theorem preserved_orderly : IntervalTimer.Preserved fun _ c => c.Orderly where
  advance _ _ _ h := h
  expire k _ h := orderly_expire h k.now
  read k c h := (c.sameCount_read k).orderly h
  latchCount k c h := (c.sameCount_latchCount k).orderly h
  latchStatus k c h := (c.sameCount_latchStatus k).orderly h
  program _ _ _ _ _ _ := rfl
  write _ _ _ h := h.write
  watch _ _ _ h := h
  stop _ _ h := h

end Channel

/-! ## Operations that spare a channel -/

namespace IntervalTimer

open Channel

variable {i : Fin 3} {op : Op} {k : Clock} {c c₀ : Channel}

namespace Op

/-- Whether an operation brings the channels up to date. -/
def evaluates : Op → Bool
  | tick => true
  | read port => (dataPort? port).isSome
  | advance _ | write _ _ | watch _ _ | stop | session _ _ => false

/-- Whether an operation neither programs channel `i`, nor writes to its data port, nor stops the
timer. A control word that latches its count or status is no such operation. -/
def spares (i : Fin 3) : Op → Bool
  | write port value =>
    if port = controlPort then
      channelOf? (value >>> 6) != some i || (ByteAccess.ofBits? (value >>> 4)).isNone
    else dataPort? port != some i
  | stop => false
  | advance _ | tick | read _ | watch _ _ | session _ _ => true

/-- The ticks that pass. -/
def ticks : Op → Nat
  | advance n => n.toNat
  | tick | read _ | write _ _ | watch _ _ | stop | session _ _ => 0

end Op

theorem sameCount_takeControl {value : UInt8}
    (h : channelOf? (value >>> 6) = some i → ByteAccess.ofBits? (value >>> 4) = none) :
    c.SameCount (takeControl i k value c) := by
  unfold takeControl
  cases hchannel : channelOf? (value >>> 6) with
  | none =>
    have hcount : c.SameCount (if Byte.bit value 5 then c else c.latchCount k) := by
      split
      · exact .refl c
      · exact c.sameCount_latchCount k
    dsimp only
    split
    · split
      · exact hcount
      · exact hcount.trans (sameCount_latchStatus _ k)
    · exact .refl c
  | some j =>
    dsimp only
    split
    next hij =>
      rw [h (by rw [hchannel, hij])]
      exact c.sameCount_latchCount k
    next => exact .refl c

/-- An operation that spares a channel at most brings it up to date. -/
theorem sameCount_next (h : op.spares i = true) :
    (if op.evaluates then (c.expire k.now).2 else c).SameCount (c.next i k op) := by
  cases op with
  | advance n | session guest controller => exact .refl c
  | tick => exact .refl _
  | read port =>
    rw [Op.evaluates]
    simp only [Channel.next]
    cases dataPort? port with
    | none => exact .refl c
    | some j =>
      rw [Option.isSome_some, if_pos rfl]
      dsimp only
      split
      · exact sameCount_read _ k
      · exact .refl _
  | write port value =>
    simp only [Op.evaluates, Channel.next, Bool.false_eq_true, if_false]
    simp only [Op.spares] at h
    split
    next hport =>
      apply sameCount_takeControl
      intro hchannel
      simpa [hport, hchannel] using h
    next hport =>
      have hother : dataPort? port ≠ some i := by simpa [hport] using h
      rw [if_neg hother]
      exact .refl c
  | watch n watcher =>
    simp only [Op.evaluates, Channel.next, Bool.false_eq_true, if_false]
    split <;> exact ⟨rfl, rfl⟩
  | stop => simp [Op.spares] at h

/-! ## The schedule -/

/-- The channel `c` at clock `k`: armed as `c₀` `total` ticks ago, and `fired` times since. -/
structure OnSchedule (c₀ : Channel) (total fired : Nat) (k : Clock) (c : Channel) : Prop where
  armed : c.armed = true
  mode : c.mode = c₀.mode
  interval : c.interval = c₀.interval
  pendingLow : c.pendingLow = none
  expirations : c.expirations = c₀.expirations + fired
  /-- The start is `fired` intervals late, and not ahead of the clock. -/
  start : c.start.toNat = (c₀.start.toNat + c₀.interval.toNat * fired) % 2 ^ 32
  le : c₀.interval.toNat * fired ≤ total
  now : k.now.toNat = (c₀.start.toNat + total) % 2 ^ 32

variable {total fired : Nat}

theorem OnSchedule.congr {c' : Channel} (h : OnSchedule c₀ total fired k c)
    (hsame : c.SameCount c') : OnSchedule c₀ total fired k c' where
  armed := (congrArg ChannelView.armed hsame.view).trans h.armed
  mode := (congrArg ChannelView.mode hsame.view).trans h.mode
  interval := (congrArg ChannelView.interval hsame.view).trans h.interval
  pendingLow := hsame.pendingLow.trans h.pendingLow
  expirations := (congrArg ChannelView.expirations hsame.view).trans h.expirations
  start := (congrArg (fun v => v.start.toNat) hsame.view).trans h.start
  le := h.le
  now := h.now

/-- While less than the whole range of the clock has passed since the start, the clock tells how
much. -/
theorem OnSchedule.toNat_ticksSince (h : OnSchedule c₀ total fired k c)
    (htimely : total < c₀.interval.toNat * fired + 2 ^ 32) :
    (ticksSince k.now c.start).toNat = total - c₀.interval.toNat * fired := by
  have hle := h.le
  rw [ticksSince, UInt32.toNat_sub, h.now, h.start]
  omega

/-- An evaluation makes up for all intervals that have passed. -/
theorem OnSchedule.expire (h : OnSchedule c₀ total fired k c) (hinterval : c₀.interval ≠ 0)
    (hperiodic : c₀.mode.isPeriodic = true) (hheld : c.isHeld = false)
    (htimely : total < c₀.interval.toNat * fired + 2 ^ 32) :
    OnSchedule c₀ total (total / c₀.interval.toNat) k (c.expire k.now).2 := by
  have hperiodic' : c.mode.isPeriodic = true := by rw [h.mode, hperiodic]
  have hfirings : c.firings k.now = (total - c₀.interval.toNat * fired) / c₀.interval.toNat := by
    rw [firings_of_runs h.armed hheld (by rwa [h.interval]), hperiodic', if_pos rfl,
      h.toNat_ticksSince htimely, h.interval]
  have hsum : fired + c.firings k.now = total / c₀.interval.toNat := by
    have hmul := Nat.add_mul_div_left (total - c₀.interval.toNat * fired) fired
      (toNat_interval_pos hinterval)
    rw [Nat.sub_add_cancel h.le] at hmul
    rw [hfirings, hmul, Nat.add_comm]
  show OnSchedule c₀ total (total / c₀.interval.toNat) k (c.fired (c.firings k.now))
  rw [← hsum]
  exact {
    armed := by rw [armed_fired hperiodic', h.armed]
    mode := by rw [mode_fired, h.mode]
    interval := by rw [interval_fired, h.interval]
    pendingLow := by rw [pendingLow_fired, h.pendingLow]
    expirations := by rw [expirations_fired, h.expirations, Nat.add_assoc]
    start := by
      rw [start_fired hperiodic', UInt32.toNat_add, UInt32.toNat_mul, UInt32.toNat_ofNat', h.start,
        h.interval]
      rw [Nat.mul_mod_mod, Nat.add_mod_mod, Nat.mod_add_mod, Nat.mul_add, Nat.add_assoc]
    le := by
      rw [hsum]
      exact Nat.mul_div_le total c₀.interval.toNat
    now := h.now }

theorem OnSchedule.advance (h : OnSchedule c₀ total fired k c) (n : UInt32) :
    OnSchedule c₀ (total + n.toNat) fired (k.advance n) c :=
  { h with
    le := Nat.le_trans h.le (Nat.le_add_right total n.toNat)
    now := by
      rw [Clock.now_advance, UInt32.toNat_add, h.now]
      omega }

/-! ## Runs -/

/-- The ticks that pass during `ops`. -/
def elapsed (ops : List Op) : Nat := (ops.map Op.ticks).sum

theorem elapsed_append (ops ops' : List Op) :
    elapsed (ops ++ ops') = elapsed ops + elapsed ops' := by
  simp [elapsed]

theorem onSchedule_step {s : Setting} (hinterval : c₀.interval ≠ 0)
    (hperiodic : c₀.mode.isPeriodic = true) (hspares : op.spares i = true)
    (h : OnSchedule c₀ total fired s.clock (s.channel i))
    (htimely : (op.evaluates && !(s.channel i).isHalfRead) = true →
      total < c₀.interval.toNat * fired + 2 ^ 32) :
    OnSchedule c₀ (total + op.ticks)
      (if op.evaluates && !(s.channel i).isHalfRead then total / c₀.interval.toNat else fired)
      (s.step op).clock ((s.step op).channel i) := by
  have hheld := isHeld_eq_isHalfRead h.pendingLow
  have hexpired : OnSchedule c₀ total
      (if op.evaluates && !(s.channel i).isHalfRead then total / c₀.interval.toNat else fired)
      s.clock (if op.evaluates then ((s.channel i).expire s.clock.now).2 else s.channel i) := by
    cases hevaluates : op.evaluates with
    | false => exact h
    | true =>
      cases hhalf : (s.channel i).isHalfRead with
      | false =>
        rw [hhalf] at hheld
        exact h.expire hinterval hperiodic hheld (htimely (by rw [hevaluates, hhalf]; rfl))
      | true =>
        rw [hhalf] at hheld
        simp only [if_true, expire_of_isHeld hheld]
        exact h
  have hnext := hexpired.congr (sameCount_next (k := s.clock) (c := s.channel i) hspares)
  rw [s.channel_step, s.clock_step]
  cases op with
  | advance n => exact hnext.advance n
  | tick | read port | write port value | watch n watcher | stop | session guest controller =>
    exact hnext

namespace Setting

/-- Whether operation `n` of a run brings channel `i` up to date. A half-finished read holds it. -/
def evaluatesAt (s : Setting) (i : Fin 3) (ops : List Op) (n : Nat) : Bool :=
  ops[n]?.any Op.evaluates && !((s.run (ops.take n)).channel i).isHalfRead

/-- Channel `i` is never brought up to date later than the clock can tell: not 2 ^ 32 ticks or
more after its start, which moved an interval with every expiration. -/
def Timely (s : Setting) (i : Fin 3) (ops : List Op) : Prop :=
  ∀ n < ops.length, s.evaluatesAt i ops n = true →
    elapsed (ops.take n) < (s.channel i).interval.toNat *
      (((s.run (ops.take n)).channel i).expirations - (s.channel i).expirations) + 2 ^ 32

instance (s : Setting) (i : Fin 3) (ops : List Op) : Decidable (s.Timely i ops) :=
  inferInstanceAs (Decidable (∀ n < ops.length, s.evaluatesAt i ops n = true → _ < _))

variable {s : Setting} {ops : List Op}

/-- The schedule at operation `n`, and at the next one. -/
theorem onSchedule_succ (hinterval : (s.channel i).interval ≠ 0)
    (hperiodic : (s.channel i).mode.isPeriodic = true)
    (hspares : ∀ op ∈ ops, op.spares i = true) (htimely : s.Timely i ops) {n : Nat}
    (hn : n < ops.length)
    (h : OnSchedule (s.channel i) (elapsed (ops.take n)) fired (s.run (ops.take n)).clock
      ((s.run (ops.take n)).channel i)) :
    OnSchedule (s.channel i) (elapsed (ops.take (n + 1)))
      (if s.evaluatesAt i ops n then elapsed (ops.take n) / (s.channel i).interval.toNat else fired)
      (s.run (ops.take (n + 1))).clock ((s.run (ops.take (n + 1))).channel i) := by
  have hevaluates : s.evaluatesAt i ops n =
      (ops[n].evaluates && !((s.run (ops.take n)).channel i).isHalfRead) := by
    rw [evaluatesAt, List.getElem?_eq_getElem hn]
    rfl
  have hfired :
      ((s.run (ops.take n)).channel i).expirations - (s.channel i).expirations = fired := by
    rw [h.expirations, Nat.add_sub_cancel_left]
  have htimely_n := htimely n hn
  rw [hevaluates, hfired] at htimely_n
  have hspares_n := hspares ops[n] (List.getElem_mem hn)
  have hstep := onSchedule_step hinterval hperiodic hspares_n h htimely_n
  have hrun : s.run (ops.take (n + 1)) = (s.run (ops.take n)).step ops[n] := by
    rw [List.take_succ_eq_append_getElem hn, run_append]
    rfl
  have helapsed : elapsed (ops.take (n + 1)) = elapsed (ops.take n) + ops[n].ticks := by
    rw [List.take_succ_eq_append_getElem hn, elapsed_append]
    simp [elapsed]
  rwa [hrun, helapsed, hevaluates]

theorem onSchedule_run (hinterval : (s.channel i).interval ≠ 0)
    (hperiodic : (s.channel i).mode.isPeriodic = true)
    (hspares : ∀ op ∈ ops, op.spares i = true) (htimely : s.Timely i ops)
    (h₀ : OnSchedule (s.channel i) 0 0 s.clock (s.channel i)) (n : Nat) (hn : n ≤ ops.length) :
    ∃ fired, OnSchedule (s.channel i) (elapsed (ops.take n)) fired (s.run (ops.take n)).clock
      ((s.run (ops.take n)).channel i) := by
  induction n with
  | zero => exact ⟨0, h₀⟩
  | succ n ih =>
    obtain ⟨fired, h⟩ := ih (by omega)
    exact ⟨_, onSchedule_succ hinterval hperiodic hspares htimely hn h⟩

theorem channel_write {port : UInt16} {value : UInt8} (hport : dataPort? port = some i) :
    (s.step (.write port value)).channel i = ((s.channel i).write s.clock value).2 := by
  have hcontrol : port ≠ controlPort := by
    rintro rfl
    have hnone : dataPort? controlPort = none := rfl
    rw [hnone] at hport
    cases hport
  rw [channel_step, Channel.next, if_neg hcontrol, if_pos hport]

/-- Arming starts the schedule. -/
theorem onSchedule_arm {port : UInt16} {value : UInt8}
    (hrunning : ((s.step (.write port value)).channel i).armed = true)
    (hlow : ((s.step (.write port value)).channel i).pendingLow = none)
    (hstart : ((s.step (.write port value)).channel i).start = s.clock.now) :
    OnSchedule ((s.step (.write port value)).channel i) 0 0 (s.step (.write port value)).clock
      ((s.step (.write port value)).channel i) := by
  have hclock : (s.step (.write port value)).clock = s.clock := s.clock_step (.write port value)
  have hmod := (Nat.mod_eq_of_lt ((s.step (.write port value)).channel i).start.toNat_lt).symm
  rw [hclock]
  exact {
    armed := hrunning
    mode := rfl
    interval := rfl
    pendingLow := hlow
    expirations := rfl
    start := hmod
    le := Nat.le_refl 0
    now := by rw [← hstart]; exact hmod }

/-- **A periodic channel fires once per interval.** Once the write of `value` completes the reload
of a periodic channel, every evaluation `n` leaves it with as many firings as whole intervals
passed since, and with its start as many intervals later. -/
theorem fires_once_per_interval {port : UInt16} {value : UInt8} (hs : s.Reachable)
    (hport : dataPort? port = some i) (harms : ((s.channel i).write s.clock value).1 = true)
    (hperiodic : (s.channel i).mode.isPeriodic = true)
    (hspares : ∀ op ∈ ops, op.spares i = true)
    (htimely : (s.step (.write port value)).Timely i ops) {n : Nat}
    (hevaluates : (s.step (.write port value)).evaluatesAt i ops n = true) :
    let armed := (s.step (.write port value)).channel i
    let after := ((s.step (.write port value)).run (ops.take (n + 1))).channel i
    let interval := (s.clock.ticksOfCounts armed.period).toNat
    let firings := elapsed (ops.take n) / interval
    0 < interval ∧ after.expirations = armed.expirations + firings ∧
      after.start.toNat = (s.clock.now.toNat + interval * firings) % 2 ^ 32 := by
  intro armed after interval firings
  obtain ⟨hrunning, hlow, hmode, hstart, hinterval⟩ :=
    armed_of_write (hs.induction preserved_orderly (fun _ _ => rfl) i) harms
  rw [← channel_write hport] at hrunning hlow hmode hstart hinterval
  have hne : armed.interval ≠ 0 := by
    rw [hinterval]
    exact s.clock.ticksOfCounts_ne_zero armed.period_ne_zero
  have hperiodic' : armed.mode.isPeriodic = true := by rw [hmode, hperiodic]
  have hn : n < ops.length := Nat.lt_of_not_le fun hle => by
    simp [evaluatesAt, List.getElem?_eq_none hle] at hevaluates
  -- On schedule up to operation `n`, which makes up for what is due.
  obtain ⟨fired, h⟩ := onSchedule_run hne hperiodic' hspares htimely
    (onSchedule_arm hrunning hlow hstart) n (Nat.le_of_lt hn)
  have hsucc := onSchedule_succ hne hperiodic' hspares htimely hn h
  rw [hevaluates, if_pos rfl] at hsucc
  have hinterval' : interval = armed.interval.toNat := (congrArg UInt32.toNat hinterval).symm
  have hfirings : firings = elapsed (ops.take n) / armed.interval.toNat := by rw [← hinterval']
  rw [hfirings, hinterval', ← hstart]
  exact ⟨toNat_interval_pos hne, hsucc.expirations, hsucc.start⟩

/-- A fresh timer in an idle session, five ticks before the clock wraps. -/
def beforeWrap : Setting where
  timer := initial
  bus := {
    vm := ⟨0, 0⟩
    clock := { hz := 1193182, now := 4294967291 }
    guest := { memory := .blank 0 }
    controller := none }

/-- A count of ten, held by a read while the clock wraps, catches up. -/
theorem fires_across_wrap :
    let s := beforeWrap.run [.write 0x43 0xB4, .write 0x42 10]
    let ops : List Op :=
      [.advance 25, .write 0x43 0x80, .read 0x42, .advance 20, .tick, .read 0x42, .tick]
    let after := ((s.step (.write 0x42 0)).run ops).channel 2
    after.expirations = 4 ∧ after.start = 35 := by
  intro s ops after
  have hs : s.Reachable := ⟨_, _, rfl⟩
  have hport : dataPort? 0x42 = some 2 := rfl
  have harms : ((s.channel 2).write s.clock 0).1 = true := by decide
  have hperiodic : (s.channel 2).mode.isPeriodic = true := by decide
  have hspares : ∀ op ∈ ops, op.spares 2 = true := by decide
  have htimely : (s.step (.write 0x42 0)).Timely 2 ops := by decide
  have hevaluates : (s.step (.write 0x42 0)).evaluatesAt 2 ops 6 = true := by decide
  obtain ⟨-, hexpirations, hstart⟩ :=
    fires_once_per_interval hs hport harms hperiodic hspares htimely hevaluates
  exact ⟨hexpirations.trans (by decide), UInt32.toNat_inj.1 (hstart.trans (by decide))⟩

end Setting
end IntervalTimer
end RealModeMonitor
