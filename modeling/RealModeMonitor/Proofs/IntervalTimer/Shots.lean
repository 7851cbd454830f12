import RealModeMonitor.Proofs.IntervalTimer.Batch
import RealModeMonitor.Proofs.IntervalTimer.Latching

/-!
# One shot for each reload

A channel that is not periodic and expires is idle, and stays so until a reload is complete
(`Channel.isArmedBy`). So an armed channel has one shot, an idle one has none (`Channel.shots`), and
nothing but a complete reload gives a channel a shot that it did not have: what it fires without
being periodic, and what it has left, are paid for by what it had and by the reloads (`shots_next`).

`IntervalTimer.next` is what a use makes of all three channels.
-/

namespace RealModeMonitor

namespace Channel

open IntervalTimer

variable {c : Channel} {i : Fin 3} {k : Clock} {now : UInt32}

/-- How often the channel fires for an operation. -/
def firingsBy (k : Clock) (c : Channel) (op : Op) : Nat :=
  if op.evaluates then c.firings k.now else 0

/-- Whether an operation completes a reload of channel `i`. -/
def isArmedBy (i : Fin 3) (k : Clock) (c : Channel) : Op → Bool
  | .write port value => dataPort? port = some i && (c.write k value).1
  | .advance _ | .tick | .read _ | .watch _ _ | .stop | .session _ _ => false

/-- How often the channel can fire if it is not periodic. -/
def shots (c : Channel) : Nat := if c.armed then 1 else 0

theorem SameCount.shots {c' : Channel} (h : c.SameCount c') : c'.shots = c.shots :=
  congrArg (fun view : ChannelView => if view.armed then 1 else 0) h.view

/-- **A shot is fired** once. -/
theorem firings_add_shots (h : c.mode.isPeriodic = false) (now : UInt32) :
    c.firings now + (c.fired (c.firings now)).shots = c.shots := by
  cases hdue : c.isDue now with
  | true =>
    obtain ⟨harmed, -⟩ := isDue_iff.1 hdue
    rw [(firings_of_isDue_once hdue h).1, shots, armed_fired_one h, shots, harmed]
    rfl
  | false => rw [firings_of_not_isDue hdue, fired_zero, Nat.zero_add]

theorem shots_fired_of_isPeriodic (h : c.mode.isPeriodic = true) (n : Nat) :
    (c.fired n).shots = c.shots := by
  rw [shots, armed_fired h, shots]

/-- What an evaluation leaves of the shots. -/
theorem shots_expire (c : Channel) (now : UInt32) :
    (if c.mode.isPeriodic then 0 else c.firings now) + (c.expire now).2.shots = c.shots := by
  cases hperiodic : c.mode.isPeriodic with
  | true => rw [if_pos rfl, Nat.zero_add, expire, shots_fired_of_isPeriodic hperiodic]
  | false => exact firings_add_shots hperiodic now

theorem shots_write (c : Channel) (k : Clock) (value : UInt8) :
    (c.write k value).2.shots ≤ c.shots + if (c.write k value).1 then 1 else 0 := by
  unfold write
  split
  · exact Nat.le_add_left 1 _
  · exact Nat.le_add_left 1 _
  · exact Nat.le_refl _
  · exact Nat.le_add_left 1 _

theorem shots_takeControl (i : Fin 3) (k : Clock) (value : UInt8) (c : Channel) :
    (takeControl i k value c).shots ≤ c.shots := by
  obtain ⟨_, htake, -⟩ | ⟨hprogram, -⟩ := takeControl_eq i k value c
  · rw [htake]
    exact Nat.zero_le _
  · exact Nat.le_of_eq (sameCount_of_not_programs hprogram).shots

/-- **Shots are paid for.** -/
theorem shots_next (i : Fin 3) (k : Clock) (c : Channel) (op : Op) :
    (if c.mode.isPeriodic then 0 else c.firingsBy k op) + (c.next i k op).shots ≤
      c.shots + if c.isArmedBy i k op then 1 else 0 := by
  cases hspares : op.spares i with
  | true =>
    rw [firingsBy, (sameCount_next hspares).shots]
    refine Nat.le_trans (Nat.le_of_eq ?_) (Nat.le_add_right _ _)
    cases op.evaluates with
    | true => exact c.shots_expire k.now
    | false => rw [if_neg Bool.false_ne_true, if_neg Bool.false_ne_true, ite_self, Nat.zero_add]
  | false =>
    cases op with
    | advance n | tick | read port | watch n watcher | session guest controller => cases hspares
    | stop => simp [firingsBy, Op.evaluates, Channel.next, shots]
    | write port value =>
      have hnone : c.firingsBy k (.write port value) = 0 := rfl
      rw [hnone, ite_self, Nat.zero_add]
      simp only [Channel.next, isArmedBy]
      split
      · exact Nat.le_trans (shots_takeControl i k value c) (Nat.le_add_right _ _)
      · by_cases hport : dataPort? port = some i
        · simpa [hport] using c.shots_write k value
        · simp [hport]

end Channel

namespace IntervalTimer

/-- What an operation makes of the timer, at clock `k`. -/
def next (k : Clock) (t : IntervalTimer) (op : Op) : IntervalTimer :=
  ⟨Vector.ofFn fun i => (t.channel i).next i k op⟩

@[simp] theorem channel_next (k : Clock) (t : IntervalTimer) (op : Op) (i : Fin 3) :
    (t.next k op).channel i = (t.channel i).next i k op := by
  simp [next, channel]

end IntervalTimer
end RealModeMonitor
