import RealModeMonitor.Proofs.Clock.Conversion
import RealModeMonitor.Proofs.CommandLine.Boot

/-!
# Letting time pass

A batch of ticks brings every session's timer up to date, and the program then ends the interrupts
that the guests took. Between two batches all guests are at rest. Whatever number of expirations a
batch makes up for, a guest takes one interrupt for them; so the interrupts taken are the batches
that cross a multiple of the interval (`Crosses`), and each session takes the same number.

**Invariant.** Every session is `Resting`. In the middle of a batch, after the tick, it is
`Interrupted` or not depending on the batch alone (`Resting.tick`). Sessions are in different slots,
so the handlers are finished one by one (`foldlM_placed`).

Main result: `runBatches_resting`.
-/

namespace RealModeMonitor.CommandLine

open Traced Monitor

/-! ## Intervals -/

/-- Counts of the timer's input from one expiration to the next. -/
def Options.period (o : Options) : Nat := if o.reload = 0 then 65536 else o.reload.toNat

/-- Host ticks from one expiration to the next, rounded up. -/
def Options.interval (o : Options) : Nat := o.period * o.tickHz.toNat ⌈/⌉ timerInputHz

/-- Whether a count that goes from `before` to `after` crosses a multiple of `interval`. -/
def Crosses (interval before after : Nat) : Prop :=
  ∃ n, before < n * interval ∧ n * interval ≤ after

theorem crosses_iff {interval before after : Nat} :
    Crosses interval before after ↔ before / interval < after / interval := by
  rcases Nat.eq_zero_or_pos interval with rfl | hpos
  · simp [Crosses]
  · constructor
    · rintro ⟨n, hbefore, hafter⟩
      have hlt : before / interval < n := (Nat.div_lt_iff_lt_mul hpos).2 hbefore
      exact Nat.lt_of_lt_of_le hlt ((Nat.le_div_iff_mul_le hpos).2 hafter)
    · intro hlt
      exact ⟨after / interval, (Nat.div_lt_iff_lt_mul hpos).1 hlt, Nat.div_mul_le_self _ _⟩

instance (interval before after : Nat) : Decidable (Crosses interval before after) :=
  decidable_of_iff _ crosses_iff.symm

variable {o : Options} {i n total delivered : Nat} {m m' : Monitor} {k : Clock} {id : VmId} {v : Vm}
  {P Q : Clock → VmId → Vm → Prop}

/-- Channel 0 expires at that interval; it is never cut to the clock's range. -/
theorem toNat_interval (h : Usable o) :
    (armedChannel o.tickHz o.reload).interval.toNat = o.interval := by
  have hperiod : (Channel.period { reload := o.reload }).toNat = o.period := by
    rw [Channel.period, Options.period]
    split
    · rfl
    · exact UInt16.toNat_toUInt32 o.reload
  have hhz : o.tickHz ≠ 0 := fun hzero => by simpa [hzero] using h.tickHz
  show (Clock.ticksOfCounts { hz := o.tickHz } (Channel.period { reload := o.reload })).toNat = _
  rw [Clock.toNat_ticksOfCounts hhz (Clock.fits_of_le _ (Channel.toNat_period_le _)), hperiod,
    Options.interval]

theorem interval_ne_zero (o : Options) : (armedChannel o.tickHz o.reload).interval ≠ 0 :=
  Clock.ticksOfCounts_ne_zero _ (Channel.period_ne_zero _)

/-! ## Ticks -/

/-- The session in the middle of a batch: its guest took an interrupt, and is in the handler. -/
def Interrupted (o : Options) (total delivered : Nat) (k : Clock) (id : VmId) (v : Vm) : Prop :=
  ∃ t g, v = .standard id (config o).guestMemory (busyController delivered) t (inHandler g) ∧
    UpToDate (armedChannel o.tickHz o.reload) total k t ∧ AtRest (config o).guestMemory g

theorem Resting.faulted (h : Resting o total delivered k id v) : v.guest.faulted = false := by
  obtain ⟨t, g, rfl, -, hguest⟩ := h
  exact hguest.faulted

theorem Interrupted.faulted (h : Interrupted o total delivered k id v) :
    v.guest.faulted = false := by
  obtain ⟨t, g, rfl, -, hguest⟩ := h
  exact hguest.faulted

/-- **The tick of a batch** interrupts the guest if a multiple of the interval is crossed. -/
theorem Resting.tick (h : Usable o) (hv : Resting o total delivered k id v) (x : UInt32)
    (hrange : total + x.toNat < 2 ^ 32) :
    (Crosses o.interval total (total + x.toNat) →
      Interrupted o (total + x.toNat) (delivered + 1) (k.advance x) id
        (v.tick (k.advance x)).val) ∧
    (¬ Crosses o.interval total (total + x.toNat) →
      Resting o (total + x.toNat) delivered (k.advance x) id (v.tick (k.advance x)).val) := by
  obtain ⟨t, g, rfl, htimer, hguest⟩ := hv
  obtain ⟨hafter, hdue⟩ := upToDate_expired (htimer.schedule.advance x) htimer.free
    (interval_ne_zero o) rfl hrange
  rw [toNat_interval h] at hdue
  rw [crosses_iff, Vm.tick_standard]
  constructor
  · intro hcrosses
    rw [pulses_idle hguest h.stackEnd_le (by omega)]
    exact ⟨_, g, rfl, hafter, hguest⟩
  · intro hnone
    have hzero : t.due (k.advance x).now = 0 := by omega
    rw [hzero]
    exact ⟨_, g, rfl, hafter, hguest⟩

/-- What one session's tick does, the host's tick does everywhere. -/
theorem Everywhere.timerTick (hm : Everywhere o n P m) (x : UInt32)
    (htick : ∀ id v, P m.clock id v →
      Q (m.clock.advance x) id (v.tick (m.clock.advance x)).val ∧
        (v.tick (m.clock.advance x)).val.guest.faulted = false) :
    Everywhere o n Q (m.timerTick x).val where
  sound := sound_timerTick hm.sound x
  each i hi := by
    obtain ⟨v, hv, hP⟩ := hm.each i hi
    obtain ⟨hQ, hfaulted⟩ := htick _ v hP
    refine ⟨_, ?_, by rw [clock_timerTick hm.sound]; exact hQ⟩
    rw [get?_timerTick hm.sound, hv]
    show survivor (v.tick (m.clock.advance x)).val = _
    rw [survivor, hfaulted]
    rfl

/-! ## Finishing a handler -/

/-- A guest that is not in its handler has nothing to finish. -/
theorem finishHandler_resting (hm : Sound (config o) m) (live : m.registry.get? id = some v)
    (hv : Resting o total delivered m.clock id v) :
    ∃ m' v', finishHandler m id = .ok m' ∧ Placed (config o) m id v' m' ∧
      Resting o total delivered m.clock id v' := by
  obtain ⟨t, g, rfl, htimer, hguest⟩ := hv
  obtain ⟨m', hlook, hplaced⟩ := controllerOf_standard hm live hguest.faulted
  have hfree : (Line.ofNumber? IntervalTimer.timerLine).any (idleController delivered).isInService =
      false := by cbv
  refine ⟨m', _, ?_, hplaced, t, g, rfl, htimer, hguest⟩
  simp only [finishHandler, hlook, ok_bind, hfree]
  rfl

/-- The end of interrupt, then the return. -/
theorem finishHandler_interrupted (h : Usable o) (hm : Sound (config o) m)
    (live : m.registry.get? id = some v) (hv : Interrupted o total delivered m.clock id v) :
    ∃ m' v', finishHandler m id = .ok m' ∧ Placed (config o) m id v' m' ∧
      Resting o total delivered m.clock id v' := by
  obtain ⟨t, g, rfl, htimer, hguest⟩ := hv
  obtain ⟨m₁, hlook, h₁⟩ := controllerOf_standard hm live hguest.faulted
  have hbusy : (Line.ofNumber? IntervalTimer.timerLine).any (busyController delivered).isInService =
      true := by cbv
  have hended : ((Vm.standard id (config o).guestMemory (busyController delivered) t
      (inHandler g)).writeByte m₁.clock InterruptController.masterCommand 0x20).val =
      (true, .standard id (config o).guestMemory (idleController delivered) t (inHandler g)) := by
    rw [Vm.writeByte_controller m₁.clock 0x20 (by decide), end_busy]
  obtain ⟨m₂, hend, h₂⟩ := ioOut_standard h₁.sound h₁.live hended hguest.faulted
  obtain ⟨m₃, hreturn, h₃⟩ := guestIret_idle h₂.sound h₂.live (hguest.iret h.stackEnd_le)
    hguest.faulted
  refine ⟨m₃, _, ?_, (h₁.trans h₂).trans h₃, t, returned g, rfl, htimer, hguest.returned⟩
  simp only [finishHandler, hlook, ok_bind, hbusy, hend, hreturn]
  rfl

/-! ## One session after the other -/

/-- Work on sessions in different slots, each of which it takes from `P` to `Q`. -/
theorem foldlM_placed {cfg : Config} {f : Monitor → VmId → Except Failure Monitor}
    {ids : List VmId}
    (hf : ∀ m id v, Sound cfg m → m.registry.get? id = some v → P m.clock id v →
      ∃ m' v', f m id = .ok m' ∧ Placed cfg m id v' m' ∧ Q m.clock id v')
    (hslots : ids.Pairwise fun id other => id.slot ≠ other.slot) (hm : Sound cfg m)
    (hP : ∀ id ∈ ids, ∃ v, m.registry.get? id = some v ∧ P m.clock id v) :
    ∃ m', ids.foldlM f m = .ok m' ∧ Sound cfg m' ∧ m'.clock = m.clock ∧
      (∀ id ∈ ids, ∃ v, m'.registry.get? id = some v ∧ Q m.clock id v) ∧
      ∀ other : VmId, (∀ id ∈ ids, other.slot ≠ id.slot) →
        m'.registry.get? other = m.registry.get? other := by
  induction ids generalizing m with
  | nil => exact ⟨m, rfl, hm, rfl, nofun, fun _ _ => rfl⟩
  | cons id ids ih =>
    obtain ⟨hhead, hslots⟩ := List.pairwise_cons.1 hslots
    obtain ⟨⟨v, live, hv⟩, hP⟩ := List.forall_mem_cons.1 hP
    obtain ⟨m₁, v₁, hfirst, h₁, hv₁⟩ := hf m id v hm live hv
    have hP₁ : ∀ other ∈ ids, ∃ v, m₁.registry.get? other = some v ∧ P m₁.clock other v := by
      intro other hother
      rw [h₁.get?_other (hhead other hother).symm, h₁.clock]
      exact hP other hother
    obtain ⟨m₂, hrest, hsound, hclock, hQ, hothers⟩ := ih hslots h₁.sound hP₁
    rw [h₁.clock] at hclock hQ
    refine ⟨m₂, ?_, hsound, hclock, List.forall_mem_cons.2 ⟨⟨v₁, ?_, hv₁⟩, hQ⟩, ?_⟩
    · rw [List.foldlM_cons, hfirst]
      exact hrest
    · rw [hothers id hhead]
      exact h₁.live
    · intro other hother
      obtain ⟨hne, hother⟩ := List.forall_mem_cons.1 hother
      rw [hothers other hother, h₁.get?_other hne]

theorem pairwise_slot_sessionId (hn : n ≤ mostSlots) :
    ((List.range n).map sessionId).Pairwise fun id other => id.slot ≠ other.slot := by
  rw [List.pairwise_map]
  apply List.pairwise_lt_range.imp_of_mem
  intro i j hi hj hlt heq
  have hi' := toNat_slot_sessionId (Nat.lt_of_lt_of_le (List.mem_range.1 hi) hn)
  have hj' := toNat_slot_sessionId (Nat.lt_of_lt_of_le (List.mem_range.1 hj) hn)
  rw [heq] at hi'
  omega

theorem Everywhere.foldlM {f : Monitor → VmId → Except Failure Monitor}
    (hf : ∀ m id v, Sound (config o) m → m.registry.get? id = some v → P m.clock id v →
      ∃ m' v', f m id = .ok m' ∧ Placed (config o) m id v' m' ∧ Q m.clock id v')
    (hm : Everywhere o n P m) (hn : n ≤ mostSlots) :
    ∃ m', ((List.range n).map sessionId).foldlM f m = .ok m' ∧ Everywhere o n Q m' := by
  obtain ⟨m', hval, hsound, hclock, hQ, -⟩ :=
    foldlM_placed hf (pairwise_slot_sessionId hn) hm.sound (by simpa using hm.each)
  refine ⟨m', hval, hsound, ?_⟩
  rw [hclock]
  simpa using hQ

/-! ## Batches -/

/-- **One batch.** -/
theorem runBatch_resting (h : Usable o) (hm : Everywhere o n (Resting o total delivered) m)
    (hn : n ≤ mostSlots) {x : Nat} (hrange : total + x < 2 ^ 32) :
    ∃ m', runBatch ((List.range n).map sessionId) m x = .ok m' ∧
      Everywhere o n
        (Resting o (total + x) (delivered + if Crosses o.interval total (total + x) then 1 else 0))
        m' := by
  have hx : (UInt32.ofNat x).toNat = x := by
    rw [UInt32.toNat_ofNat']
    omega
  have htick := fun id v (hv : Resting o total delivered m.clock id v) =>
    hv.tick h (.ofNat x) (by rwa [hx])
  rw [hx] at htick
  by_cases hcrosses : Crosses o.interval total (total + x)
  · rw [if_pos hcrosses]
    have hafter := hm.timerTick (.ofNat x)
      fun id v hv => ⟨(htick id v hv).1 hcrosses, ((htick id v hv).1 hcrosses).faulted⟩
    exact hafter.foldlM (fun m id v => finishHandler_interrupted h) hn
  · rw [if_neg hcrosses]
    have hafter := hm.timerTick (.ofNat x)
      fun id v hv => ⟨(htick id v hv).2 hcrosses, ((htick id v hv).2 hcrosses).faulted⟩
    exact hafter.foldlM (fun m id v => finishHandler_resting) hn

/-- The batches that cross a multiple of the interval, when `total` ticks passed before them. -/
def crossings (interval : Nat) : Nat → List Nat → Nat
  | _, [] => 0
  | total, x :: xs =>
    (if Crosses interval total (total + x) then 1 else 0) + crossings interval (total + x) xs

/-- **All batches.** -/
theorem runBatches_resting (h : Usable o) (hm : Everywhere o n (Resting o total delivered) m)
    (hn : n ≤ mostSlots) {xs : List Nat} (hrange : total + xs.sum < 2 ^ 32) :
    ∃ m', runBatches ((List.range n).map sessionId) m xs = .ok m' ∧
      Everywhere o n (Resting o (total + xs.sum) (delivered + crossings o.interval total xs))
        m' := by
  induction xs generalizing total delivered m with
  | nil => exact ⟨m, rfl, hm⟩
  | cons x xs ih =>
    rw [List.sum_cons] at hrange ⊢
    obtain ⟨m₁, hfirst, h₁⟩ := runBatch_resting h hm hn (x := x) (by omega)
    obtain ⟨m₂, hrest, h₂⟩ := ih h₁ (by omega)
    rw [Nat.add_assoc, Nat.add_assoc] at h₂
    refine ⟨m₂, ?_, h₂⟩
    rw [runBatches, List.foldlM_cons, hfirst]
    exact hrest

end RealModeMonitor.CommandLine
