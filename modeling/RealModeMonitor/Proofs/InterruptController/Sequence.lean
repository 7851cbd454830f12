import Mathlib
import RealModeMonitor.Proofs.InterruptController.Exclusion

/-!
# Deliveries and initialisation sequences

Between the first byte of an initialisation and the last one, a chip still has the vector base that
it is about to lose. Nothing is delivered from either chip while the master is in such a sequence,
and requests wait for its end.

**The slave is not guarded.** Delivering looks at the state of the master only. What keeps the
slave's lines quiet is that the first byte of the slave's sequence forgets their requests, and that
lasts until one of them is raised again: `delivered_in_sequence` shows the delivery that follows.
If no line of the slave is raised during its sequence, the chip that a delivered line belongs to is
never in one (`Quiet`).

Main result: `sequences_undisturbed`.
-/

namespace RealModeMonitor

/-- Only the first byte of an initialisation brings a chip into a sequence. -/
theorem Chip.reset_of_initializing {c : Chip} {command : Bool} {value : UInt8}
    (h : (c.write command value).state.isInitializing = true) :
    (command && Byte.bit value 4) = true ∨ c.state.isInitializing = true := by
  by_cases hstate : c.state.isInitializing
  · exact .inr hstate
  · refine .inl (Bool.of_not_eq_false fun hreset => ?_)
    obtain ⟨-, -, hlater⟩ := Chip.programmed_write (Bool.eq_false_iff.2 hstate) hreset
    exact Bool.false_ne_true (hlater.symm.trans h)

namespace InterruptController

variable {c : InterruptController} {op : Op} {side : Line.Side} {line : Line}

/-! ## One operation -/

/-- The controller as an operation has changed it before anything is delivered. -/
def changed (c : InterruptController) : Op → InterruptController
  | .write vm port value | .writeAndDeliver vm port value _ => (c.writePort vm port value).val
  | .read port => (c.readPort port).2
  | .raise _ number _ =>
    match Line.ofNumber? number with
    | some line => (c.latch? line).getD c
    | none => c
  | .deliver _ _ => c

/-- After its change an operation delivers the line that is offered, or nothing. -/
structure Takes (c : InterruptController) (op : Op) (line : Line) : Prop where
  offered : (c.changed op).offered? true = some line
  step : c.step op = (c.changed op).acknowledge line
  only : ∀ other, .delivered other ∈ c.incidents op → other = line

/-- A byte resets a chip, or is no incident. -/
theorem eq_reset_of_mem {port : UInt16} {value : UInt8} {incident : Incident}
    (h : incident ∈ writeIncidents port value) : ∃ side, incident = .reset side := by
  unfold writeIncidents at h
  split at h
  next side _ =>
    split at h
    · exact ⟨side, List.mem_singleton.1 h⟩
    · cases h
  all_goals cases h

theorem not_mem_writeIncidents (port : UInt16) (value : UInt8) :
    .delivered line ∉ writeIncidents port value := by
  intro h
  obtain ⟨side, heq⟩ := eq_reset_of_mem h
  cases heq

theorem deliver_takes (c : InterruptController) (vm : VmId) (g : Guest) :
    ((c.deliver vm g).val.2.1 = c ∧ deliveryIncidents (c.deliver vm g).val.1 = []) ∨
      ∃ line, c.offered? true = some line ∧ (c.deliver vm g).val.2.1 = c.acknowledge line ∧
        deliveryIncidents (c.deliver vm g).val.1 = [.delivered line] := by
  obtain ⟨-, hval⟩ | ⟨line, g', hoffer, -, hval⟩ | ⟨line, e, g', -, -, hval⟩ :=
    c.deliver_cases vm g
  · exact .inl (by rw [hval]; exact ⟨rfl, rfl⟩)
  · exact .inr ⟨line, offered?_eq_some hoffer, by rw [hval], by rw [hval]; rfl⟩
  · exact .inl (by rw [hval]; exact ⟨rfl, rfl⟩)

/-- A raise is dropped, or latches its line and delivers. -/
theorem raise_deliver (c : InterruptController) (vm : VmId) (number : UInt8) (g : Guest) :
    let c' := c.changed (.raise vm number g)
    (c' = c ∧ c.step (.raise vm number g) = c ∧ c.incidents (.raise vm number g) = []) ∨
      (c.step (.raise vm number g) = (c'.deliver vm g).val.2.1 ∧
        ∀ line, .delivered line ∈ c.incidents (.raise vm number g) ↔
          .delivered line ∈ deliveryIncidents (c'.deliver vm g).val.1) := by
  intro c'
  cases hline : Line.ofNumber? number with
  | none =>
    have hchanged : c' = c := by simp [c', changed, hline]
    exact .inl ⟨hchanged, by simp [step, raise, hline], by
      simp [incidents, raise, hline, raiseIncidents]⟩
  | some line =>
    cases hserved : c.isInService line with
    | true =>
      have hchanged : c' = c := by simp [c', changed, hline, latch?, hserved]
      exact .inl ⟨hchanged, by simp [step, raise, hline, latch?, hserved], by
        simp [incidents, raise, hline, latch?, hserved, raiseIncidents]⟩
    | false =>
      have hchanged : c' = c.latch line := by simp [c', changed, hline, latch?, hserved]
      rw [hchanged]
      refine .inr ⟨by simp [step, raise, hline, latch?, hserved], fun other => ?_⟩
      have hval : (c.raise vm number g).val.1 =
          ((c.latch line).deliver vm g).val.1.map outcomeOf := by
        simp [raise, hline, latch?, hserved]
      rw [incidents, hval]
      rcases ((c.latch line).deliver vm g).val.1 with _ | _ | _ <;>
        simp [raiseIncidents, deliveryIncidents, Except.map, outcomeOf, hline]

theorem step_cases (c : InterruptController) (op : Op) :
    (c.step op = c.changed op ∧ ∀ line, .delivered line ∉ c.incidents op) ∨
      ∃ line, c.Takes op line := by
  cases op with
  | write vm port value => exact .inl ⟨rfl, fun line => not_mem_writeIncidents port value⟩
  | read port => exact .inl ⟨rfl, fun line => List.not_mem_nil⟩
  | writeAndDeliver vm port value g =>
    have hstep : c.step (.writeAndDeliver vm port value g) =
        ((c.writePort vm port value).val.deliver vm g).val.2.1 := by
      rw [step, val_writeAndDeliver]
    rcases deliver_takes (c.writePort vm port value).val vm g with
      ⟨hsame, hnone⟩ | ⟨line, hoffer, htaken, hone⟩
    · refine .inl ⟨hstep.trans hsame, fun line => ?_⟩
      simp [incidents, hnone, not_mem_writeIncidents]
    · refine .inr ⟨line, hoffer, hstep.trans htaken, fun other => ?_⟩
      simp [incidents, hone, not_mem_writeIncidents]
  | raise vm number g =>
    rcases raise_deliver c vm number g with ⟨hchanged, hstep, hnone⟩ | ⟨hstep, hincidents⟩
    · exact .inl ⟨hstep.trans hchanged.symm, fun line => by rw [hnone]; exact List.not_mem_nil⟩
    · rcases deliver_takes (c.changed (.raise vm number g)) vm g with
        ⟨hsame, hnone⟩ | ⟨line, hoffer, htaken, hone⟩
      · refine .inl ⟨hstep.trans hsame, fun line => ?_⟩
        simp [hincidents, hnone]
      · refine .inr ⟨line, hoffer, hstep.trans htaken, fun other => ?_⟩
        simp [hincidents, hone]
  | deliver vm g =>
    rcases c.deliver_takes vm g with ⟨hsame, hnone⟩ | ⟨line, hoffer, htaken, hone⟩
    · refine .inl ⟨hsame, fun line => ?_⟩
      simp [incidents, hnone]
    · refine .inr ⟨line, hoffer, htaken, fun other => ?_⟩
      simp [incidents, hone]

/-! ## Sequences -/

theorem state_latch (c : InterruptController) (line : Line) (side : Line.Side) :
    ((c.latch line).chip side).state = (c.chip side).state := by
  rw [latch, chip_setChip]
  split
  next hside =>
    subst hside
    rfl
  next => rfl

theorem isInitializing_readPort (c : InterruptController) (port : UInt16) (side : Line.Side) :
    ((c.readPort port).2.chip side).state.isInitializing = (c.chip side).state.isInitializing := by
  unfold readPort
  rcases decode? port with _ | ⟨read, _ | _⟩
  · rfl
  · rfl
  · dsimp only
    rw [chip_setChip]
    split
    next hside =>
      subst hside
      obtain ⟨state, hsame, hread⟩ := (c.chip read).readCommand_eq
      rw [hread]
      exact hsame
    next => rfl

/-- A chip in a sequence was in it before the byte, or it is the byte that began it. -/
theorem reset_of_writePort {vm : VmId} {port : UInt16} {value : UInt8}
    (h : ((c.writePort vm port value).val.chip side).state.isInitializing = true) :
    .reset side ∈ writeIncidents port value ∨ (c.chip side).state.isInitializing = true := by
  rw [val_writePort] at h
  unfold writeIncidents
  cases hport : decode? port with
  | none =>
    rw [hport] at h
    exact .inr h
  | some decoded =>
    obtain ⟨written, command⟩ := decoded
    rw [hport] at h
    dsimp only at h
    rw [chip_setChip] at h
    by_cases hside : written = side
    · subst hside
      rw [if_pos rfl] at h
      rcases Chip.reset_of_initializing h with hreset | hbefore
      · obtain ⟨rfl, hbit⟩ := Bool.and_eq_true_iff.1 hreset
        simp [hbit]
      · exact .inr hbefore
    · rw [if_neg hside] at h
      exact .inr h

/-- While the master is in a sequence, nothing is delivered. -/
theorem Takes.master (h : c.Takes op line) : (c.step op).master.state.isInitializing = false := by
  have hstate := (c.changed op).state_acknowledge line .master
  rw [← h.step] at hstate
  have hnot := (offered?_eq_some_iff.1 h.offered).2.1
  rw [chip, chip] at hstate
  rw [hstate]
  exact hnot

/-! ## The slave -/

/-- A slave in a sequence has no requests. -/
def Quiet (c : InterruptController) : Prop :=
  c.slave.state.isInitializing = true → ∀ pin, c.isPending (.slave pin) = false

/-- No line of the slave is raised while the slave is in a sequence. -/
def Spares (c : InterruptController) : Op → Prop
  | .raise _ number _ =>
    c.slave.state.isInitializing = true → ∀ pin, Line.ofNumber? number ≠ some (.slave pin)
  | .write .. | .read _ | .writeAndDeliver .. | .deliver .. => True

/-- The same throughout a run. -/
def SparesSlave (c : InterruptController) : List Op → Prop
  | [] => True
  | op :: ops => c.Spares op ∧ (c.step op).SparesSlave ops

/-- A byte adds no request, and that of a line whose chip it resets is gone. -/
theorem pending_of_writePort {vm : VmId} {port : UInt16} {value : UInt8}
    (h : (c.writePort vm port value).val.isPending line = true) :
    c.isPending line = true ∧ .reset line.side ∉ writeIncidents port value := by
  have hexplained := (c.explains_write vm port value).requested_iff line
  have hraised : .raised line ∉ writeIncidents port value := by
    intro h
    obtain ⟨side, heq⟩ := eq_reset_of_mem h
    cases heq
  rcases hexplained.1 h with ⟨before, after, hhistory, -⟩ | ⟨hbefore, -, hreset⟩
  · exact absurd (hhistory ▸ by simp) hraised
  · exact ⟨hbefore, hreset⟩

theorem Quiet.writePort (h : c.Quiet) (vm : VmId) (port : UInt16) (value : UInt8) :
    (c.writePort vm port value).val.Quiet := by
  intro hinit pin
  apply Bool.eq_false_iff.2
  intro hpending
  obtain ⟨hbefore, hkept⟩ := pending_of_writePort hpending
  have hcause : .reset .slave ∈ writeIncidents port value ∨
      c.slave.state.isInitializing = true := reset_of_writePort hinit
  rcases hcause with hreset | hearlier
  · exact hkept hreset
  · exact Bool.false_ne_true ((h hearlier pin).symm.trans hbefore)

theorem Quiet.changed (h : c.Quiet) (hspares : c.Spares op) : (c.changed op).Quiet := by
  cases op with
  | write vm port value => exact h.writePort vm port value
  | writeAndDeliver vm port value g => exact h.writePort vm port value
  | read port =>
    intro hinit pin
    have hbefore := c.isInitializing_readPort port .slave
    rw [InterruptController.changed, isPending_readPort]
    exact h (hbefore.symm.trans hinit) pin
  | raise vm number g =>
    cases hline : Line.ofNumber? number with
    | none => simpa [InterruptController.changed, hline] using h
    | some line =>
      cases hserved : c.isInService line with
      | true => simpa [InterruptController.changed, hline, latch?, hserved] using h
      | false =>
        have hchanged : c.changed (.raise vm number g) = c.latch line := by
          simp [InterruptController.changed, hline, latch?, hserved]
        rw [hchanged]
        intro hinit pin
        have hstate : (c.latch line).slave.state = c.slave.state := c.state_latch line .slave
        rw [hstate] at hinit
        have hother : Line.slave pin ≠ line := by
          rintro rfl
          exact hspares hinit pin hline
        simp [isPending_latch, h hinit pin, hother]
  | deliver vm g => exact h

theorem Quiet.step (h : c.Quiet) (hspares : c.Spares op) : (c.step op).Quiet := by
  have hchanged := h.changed hspares
  rcases c.step_cases op with ⟨hstep, -⟩ | ⟨line, htakes⟩
  · rwa [hstep]
  · rw [htakes.step]
    intro hinit pin
    have hstate : ((c.changed op).acknowledge line).slave.state = (c.changed op).slave.state :=
      (c.changed op).state_acknowledge line .slave
    rw [hstate] at hinit
    rw [((c.changed op).acknowledged line).isPending, hchanged hinit pin, Bool.false_and]

theorem Quiet.run (h : c.Quiet) {ops : List Op} (hspares : c.SparesSlave ops) :
    (c.run ops).Quiet := by
  induction ops generalizing c with
  | nil => exact h
  | cons op ops ih => exact ih (h.step hspares.1) hspares.2

/-- In a quiet pair the line that is taken belongs to a chip that is in no sequence. -/
theorem Takes.owner (htakes : c.Takes op line) (hquiet : (c.changed op).Quiet) :
    ((c.step op).owner line).state.isInitializing = false := by
  have hstate := (c.changed op).state_acknowledge line line.side
  rw [← htakes.step] at hstate
  rw [InterruptController.owner, hstate]
  cases line with
  | master pin => exact (offered?_eq_some_iff.1 htakes.offered).2.1
  | slave pin =>
    apply Bool.eq_false_iff.2
    intro hinit
    have hpending := isPending_of_offered? htakes.offered
    exact Bool.false_ne_true ((hquiet hinit pin).symm.trans hpending)

/-! ## Deliveries -/

/-- **Sequences are undisturbed.** At every delivery the master is in no sequence, and if no line of
the slave was raised while the slave was in one, neither is the chip that the delivered line belongs
to. While the master is in a sequence, nothing but the beginning of a sequence takes a request away.
-/
theorem sequences_undisturbed (ops : List Op) (op : Op) :
    let c := initial.run ops
    (∀ line, .delivered line ∈ c.incidents op →
      (c.step op).master.state.isInitializing = false) ∧
    (initial.SparesSlave ops → c.Spares op → ∀ line, .delivered line ∈ c.incidents op →
      ((c.step op).owner line).state.isInitializing = false) ∧
    ((c.step op).master.state.isInitializing = true → ∀ line, c.isPending line = true →
      .reset line.side ∉ c.incidents op → (c.step op).isPending line = true) := by
  intro c
  have htaken : ∀ line, .delivered line ∈ c.incidents op → c.Takes op line := by
    intro line hdelivered
    rcases c.step_cases op with ⟨-, hnone⟩ | ⟨taken, htakes⟩
    · exact absurd hdelivered (hnone line)
    · rwa [htakes.only line hdelivered]
  refine ⟨fun line hdelivered => (htaken line hdelivered).master, ?_, ?_⟩
  · intro hrun hspares line hdelivered
    have hinitial : initial.Quiet := fun _ pin => isPending_initial (.slave pin)
    exact (htaken line hdelivered).owner ((hinitial.run hrun).changed hspares)
  · intro hinit line hpending hreset
    have hnone : .delivered line ∉ c.incidents op := by
      intro hdelivered
      exact Bool.false_ne_true ((htaken line hdelivered).master.symm.trans hinit)
    exact ((c.explains_step op).requested_iff line).2 (.inr ⟨hpending, hnone, hreset⟩)

/-- **The slave is not guarded.** A line of the slave that is raised after the first byte of the
slave's sequence is delivered at once, with the base that the second byte replaces. -/
theorem delivered_in_sequence :
    let vm : VmId := ⟨0, 0⟩
    let guest : Guest :=
      { frame := { ss := 0x1000, sp := 0x8000, flags := 0x202 }, memory := .blank 0x110000 }
    let c := initial.run [.write vm slaveCommand 0x11]
    let op : Op := .raise vm 8 guest
    (c.raise vm 8 guest).val.1 = .ok (.delivered ⟨.slave 0, 0x70⟩) ∧
      .delivered (.slave 0) ∈ c.incidents op ∧
      ((c.step op).owner (.slave 0)).state = .waitIcw2 ∧
      ((c.step op).step (.write vm slaveData 0x28)).slave.base = 0x28 := by
  intro vm guest c op
  have hraise : (c.raise vm 8 guest).val.1 = .ok (.delivered ⟨.slave 0, 0x70⟩) := by cbv
  have hincidents : c.incidents op = [.raised (.slave 0), .delivered (.slave 0)] := by
    rw [incidents, hraise]
    decide
  refine ⟨hraise, ?_, by cbv, by cbv⟩
  simp [hincidents]

end InterruptController
end RealModeMonitor
