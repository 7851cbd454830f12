import RealModeMonitor.Proofs.InterruptController.Requests
import RealModeMonitor.Proofs.InterruptController.Service
import RealModeMonitor.Proofs.InterruptController.Wake

/-!
# Pending or in service, not both

A delivery trades the request of its line for a service, and a raise of a line in service is
dropped. So no line of the slave is ever both requested and in service. The same holds on the
master, but for one pin: a delivery from the slave puts the cascade pin in service and leaves alone
a request that the pin has latched for itself.

**The exception moves.** Which pin is the cascade pin can be programmed anew, and then a pin that
was excepted would no longer be. It can only be done in an initialisation of the master. Its first
byte clears what is in service, and nothing is delivered before its last one, so whenever the
cascade pin changes the master has nothing in service (`Exclusive.idle`).

Main result: `pending_excludes_service`.
-/

namespace RealModeMonitor

/-! ## Wiring -/

namespace Chip

variable {c : Chip} {command : Bool} {value : UInt8}

/-- A chip that is not being initialised keeps what the last initialisation told it. -/
theorem programmed_write (hstate : c.state.isInitializing = false)
    (hreset : (command && Byte.bit value 4) = false) :
    (c.write command value).icw1 = c.icw1 ∧ (c.write command value).icw3 = c.icw3 ∧
      (c.write command value).state.isInitializing = false := by
  have hend : ∀ c : Chip, c.endOfInterrupt.icw1 = c.icw1 ∧ c.endOfInterrupt.icw3 = c.icw3 ∧
      c.endOfInterrupt.state = c.state := by
    intro c
    unfold endOfInterrupt
    cases c.top? <;> exact ⟨rfl, rfl, rfl⟩
  have hservice : (c.controlService value).1.icw1 = c.icw1 ∧
      (c.controlService value).1.icw3 = c.icw3 ∧ (c.controlService value).1.state = c.state := by
    unfold controlService
    split <;> simp [hend]
  have hread : (c.controlRead value).1.icw1 = c.icw1 ∧ (c.controlRead value).1.icw3 = c.icw3 ∧
      (c.controlRead value).1.state.isInitializing = false := by
    refine ⟨rfl, rfl, ?_⟩
    unfold controlRead
    dsimp only
    split
    · rfl
    · rfl
    · exact hstate
  unfold write
  cases command with
  | false => simp [writeData, hstate]
  | true =>
    rw [Bool.true_and] at hreset
    by_cases hbit : Byte.bit value 3
    · simpa [writeCommand, hreset, hstate, hbit] using hread
    · obtain ⟨hicw1, hicw3, hsame⟩ := hservice
      simpa [writeCommand, hreset, hstate, hbit, hsame] using And.intro hicw1 hicw3

theorem requested_of_write {pin : Fin 8} (h : (c.write command value).requested pin = true) :
    c.requested pin = true := by
  rw [requested, irr_write] at h
  split at h
  · simp at h
  · exact h

theorem inService_of_write {pin : Fin 8} (h : (c.write command value).inService pin = true) :
    c.inService pin = true := by
  rw [inService, isr_write] at h
  split at h
  · simp at h
  · split at h
    · rw [← inService, inService_endOfInterrupt, Bool.and_eq_true] at h
      exact h.1
    · exact h

theorem inService_of_reset {pin : Fin 8} (hreset : (command && Byte.bit value 4) = true) :
    (c.write command value).inService pin = false := by
  rw [inService, isr_write, if_pos hreset]
  exact Byte.bit_zero pin

end Chip

namespace InterruptController

variable {c c' : InterruptController} {line : Line}

theorem cascade?_congr (hicw1 : c'.master.icw1 = c.master.icw1)
    (hicw3 : c'.master.icw3 = c.master.icw3) : c'.cascade? = c.cascade? := by
  rw [cascade?, Chip.single, hicw1, hicw3]
  rfl

theorem state_acknowledge (c : InterruptController) (line : Line) (side : Line.Side) :
    ((c.acknowledge line).chip side).state = (c.chip side).state := by
  have hstate : ((c.acknowledge line).chip side).settings.state = (c.chip side).settings.state := by
    rw [(c.acknowledged line).settings side]
  exact hstate

theorem cascade?_acknowledge (c : InterruptController) (line : Line) :
    (c.acknowledge line).cascade? = c.cascade? := by
  have hsettings := (c.acknowledged line).settings .master
  have hicw1 : ((c.acknowledge line).chip .master).settings.icw1 =
      (c.chip .master).settings.icw1 := by rw [hsettings]
  have hicw3 : ((c.acknowledge line).chip .master).settings.icw3 =
      (c.chip .master).settings.icw3 := by rw [hsettings]
  exact cascade?_congr hicw1 hicw3

/-! ## Exclusion -/

/-- No line is requested and in service, the cascade pin excepted. -/
structure Exclusive (c : InterruptController) : Prop where
  slave : ∀ pin, c.slave.requested pin = true → c.slave.inService pin = false
  master : ∀ pin, c.master.requested pin = true → c.master.inService pin = true →
    c.cascade? = some pin
  /-- A master that is being initialised has nothing in service. -/
  idle : c.master.state.isInitializing = true → ∀ pin, c.master.inService pin = false

theorem exclusive_initial : initial.Exclusive where
  slave _ _ := Byte.bit_zero _
  master _ h := absurd h (by simp [initial, Chip.requested])
  idle h := absurd h (by decide)

theorem Exclusive.writeMaster (h : c.Exclusive) (command : Bool) (value : UInt8) :
    (c.setChip .master (c.master.write command value)).Exclusive := by
  by_cases hreset : command && Byte.bit value 4
  · -- The first byte of an initialisation forgets everything.
    refine ⟨h.slave, ?_, ?_⟩
    · intro pin _ hserved
      have hnone : (c.master.write command value).inService pin = false :=
        Chip.inService_of_reset hreset
      exact absurd (hnone.symm.trans hserved) Bool.false_ne_true
    · exact fun _ pin => Chip.inService_of_reset hreset
  by_cases hstate : c.master.state.isInitializing
  · -- A later byte may change the cascade pin, but nothing is in service.
    have hnone : ∀ pin, (c.master.write command value).inService pin = false := by
      intro pin
      apply Bool.eq_false_iff.2
      intro hserved
      have hbefore := Chip.inService_of_write hserved
      rw [h.idle hstate pin] at hbefore
      exact Bool.false_ne_true hbefore
    refine ⟨h.slave, ?_, fun _ => hnone⟩
    intro pin _ hserved
    exact absurd ((hnone pin).symm.trans hserved) Bool.false_ne_true
  · obtain ⟨hicw1, hicw3, hlater⟩ : (c.master.write command value).icw1 = c.master.icw1 ∧
        (c.master.write command value).icw3 = c.master.icw3 ∧
        (c.master.write command value).state.isInitializing = false :=
      Chip.programmed_write (Bool.eq_false_iff.2 hstate) (Bool.eq_false_iff.2 hreset)
    have hcascade : (c.setChip .master (c.master.write command value)).cascade? = c.cascade? :=
      cascade?_congr hicw1 hicw3
    refine ⟨h.slave, ?_, ?_⟩
    · intro pin hrequested hserved
      rw [hcascade]
      exact h.master pin (Chip.requested_of_write hrequested) (Chip.inService_of_write hserved)
    · intro hagain
      exact absurd (hlater.symm.trans hagain) Bool.false_ne_true

theorem Exclusive.writeSlave (h : c.Exclusive) (command : Bool) (value : UInt8) :
    (c.setChip .slave (c.slave.write command value)).Exclusive := by
  refine ⟨?_, h.master, h.idle⟩
  intro pin hrequested
  apply Bool.eq_false_iff.2
  intro hserved
  have hbefore := h.slave pin (Chip.requested_of_write hrequested)
  rw [Chip.inService_of_write hserved] at hbefore
  exact Bool.false_ne_true hbefore.symm

theorem Exclusive.acknowledge (h : c.Exclusive) (hoffer : c.offered? true = some line) :
    (c.acknowledge line).Exclusive := by
  have hnot : c.master.state.isInitializing = false := (offered?_eq_some_iff.1 hoffer).2.1
  have hstate : (c.acknowledge line).master.state = c.master.state :=
    c.state_acknowledge line .master
  have hpending := (c.acknowledged line).isPending
  have hservice := (c.acknowledged line).isInService
  refine ⟨?_, ?_, ?_⟩
  · intro pin hrequested
    have hleft : c.slave.requested pin = true ∧ Line.slave pin ≠ line := by
      simpa [isPending_slave] using (hpending (.slave pin)).symm.trans hrequested
    have htaken : Line.slave pin ∉ c.takenWith line := by
      cases line with
      | master other => simp [takenWith]
      | slave other => cases c.cascade? <;> simpa [takenWith] using hleft.2
    rw [← isInService_slave, hservice]
    simp [isInService_slave, h.slave pin hleft.1, htaken]
  · intro pin hrequested hserved
    have hleft : c.master.requested pin = true ∧ Line.master pin ≠ line := by
      simpa [isPending_master] using (hpending (.master pin)).symm.trans hrequested
    rw [cascade?_acknowledge]
    rw [← isInService_master, hservice] at hserved
    by_cases hbefore : c.master.inService pin
    · exact h.master pin hleft.1 hbefore
    · -- Only now in service, and not by a delivery of its own.
      have htaken : Line.master pin ∈ c.takenWith line := by
        simp only [isInService_master, hbefore, Bool.or_eq_true, Bool.and_eq_true,
          decide_eq_true_eq] at hserved
        simpa using hserved.resolve_left Bool.false_ne_true |>.1
      cases line with
      | master other =>
        obtain rfl : pin = other := by simpa [takenWith] using htaken
        exact absurd rfl hleft.2
      | slave other => simpa [takenWith, Option.mem_toList] using htaken
  · intro hinit
    have hbefore : c.master.state.isInitializing = true := by rwa [← hstate]
    exact absurd (hnot.symm.trans hbefore) Bool.false_ne_true

theorem preserved_exclusive : Preserved Exclusive where
  write c side command value h := by
    cases side with
    | master => exact h.writeMaster command value
    | slave => exact h.writeSlave command value
  read c side h := by
    obtain ⟨state, hsame, hread⟩ := (c.chip side).readCommand_eq
    rw [hread]
    cases side with
    | master => exact ⟨h.slave, h.master, fun hinit => h.idle (hsame.symm.trans hinit)⟩
    | slave => exact ⟨h.slave, h.master, h.idle⟩
  latch c line hserved h := by
    cases line with
    | master pin =>
      refine ⟨h.slave, ?_, h.idle⟩
      intro other hrequested hservice
      rw [← isPending_master, isPending_latch, Bool.or_eq_true, decide_eq_true_eq] at hrequested
      rcases hrequested with hrequested | hline
      · exact h.master other hrequested hservice
      · obtain rfl := Line.master.inj hline
        exact absurd (hserved.symm.trans hservice) Bool.false_ne_true
    | slave pin =>
      refine ⟨?_, h.master, h.idle⟩
      intro other hrequested
      rw [← isPending_slave, isPending_latch, Bool.or_eq_true, decide_eq_true_eq] at hrequested
      rcases hrequested with hrequested | hline
      · exact h.slave other hrequested
      · obtain rfl := Line.slave.inj hline
        exact hserved
  acknowledge c line hoffer h := h.acknowledge hoffer

/-- **Pending or in service, not both.** After any run no line of the slave is requested and in
service, and of the master's pins none but the one that the slave is wired to. The vectors of each
chip begin at a multiple of 8. -/
theorem pending_excludes_service (ops : List Op) :
    let c := initial.run ops
    (∀ pin, ¬(c.slave.requested pin = true ∧ c.slave.inService pin = true)) ∧
    (∀ pin, c.master.requested pin = true ∧ c.master.inService pin = true →
      c.cascade? = some pin) ∧
    ∀ side, (c.chip side).base.toNat % 8 = 0 := by
  intro c
  have hreach : c.Reachable := ⟨ops, rfl⟩
  have h : c.Exclusive := hreach.induction preserved_exclusive exclusive_initial
  refine ⟨?_, ?_, hreach.aligned⟩
  · rintro pin ⟨hrequested, hserved⟩
    exact Bool.false_ne_true ((h.slave pin hrequested).symm.trans hserved)
  · rintro pin ⟨hrequested, hserved⟩
    exact h.master pin hrequested hserved

end InterruptController
end RealModeMonitor
