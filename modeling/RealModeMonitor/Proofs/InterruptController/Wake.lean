import RealModeMonitor.Proofs.InterruptController.Run

/-!
# No request waits for a guest that could take it

A request is **deliverable** if an offer made now would find it: the guest may be entered, has its
interrupt flag set, and the controller has a line to offer. A controller is **calm** with a guest if
nothing is deliverable, or if the guest is lost to a fault anyway.

An offer leaves the controller calm whatever was before (`calm_deliver`): a guest that takes an
interrupt goes on with its interrupt flag clear, one that does not may not be entered or is at
fault. So does a write, which ends with an offer. A raise that is dropped makes no offer; it
leaves a calm controller calm (`Calm.raise`), and so does a read.
-/

namespace RealModeMonitor

/-! ## Guests -/

namespace Frame

theorem interruptFlag_masked (flags : UInt16) :
    flags &&& ~~~interruptFlag &&& interruptFlag = 0 := by
  have hmask : ~~~interruptFlag &&& interruptFlag = 0 := by decide
  rw [UInt16.and_assoc, hmask, UInt16.and_zero]

/-- A handler starts with its interrupts off. -/
theorem interruptFlag_handlerFlags (flags : UInt16) :
    handlerFlags flags &&& interruptFlag = 0 := by
  have hmask : ~~~(interruptFlag ||| trapFlag) &&& interruptFlag = 0 := by decide
  have hreserved : reservedFlag &&& interruptFlag = 0 := by decide
  have hsplit : handlerFlags flags &&& interruptFlag =
      (flags &&& ~~~(interruptFlag ||| trapFlag)) &&& interruptFlag |||
        reservedFlag &&& interruptFlag :=
    UInt16.toBitVec_inj.1 BitVec.and_or_distrib_right
  rw [hsplit, UInt16.and_assoc, hmask, hreserved, UInt16.and_zero, UInt16.or_zero]

end Frame

namespace Guest

variable {g g' : Guest} {vector : UInt8}

theorem vif_setVif_false (g : Guest) : (g.setVif false).vif = false := by
  simp [vif, setVif, Frame.interruptFlag_masked]

/-- A guest takes an interrupt and has its own off then, or may not be entered, or is lost. -/
theorem interrupt_cases (g : Guest) (vector : UInt8) :
    (g.interrupt vector).2.vif = false ∨
      (g.isResumable = false ∧ (g.interrupt vector).2 = g) ∨
      (g.interrupt vector).2.faulted = true := by
  unfold interrupt
  cases hresumable : g.isResumable with
  | false => exact .inr (.inl ⟨rfl, rfl⟩)
  | true =>
    rw [if_pos rfl]
    split
    · exact .inr (.inr rfl)
    · refine .inl ?_
      simp [vif, Frame.interruptFlag_handlerFlags]

end Guest

/-- A read changes at most which register the next read gives. -/
theorem Chip.readCommand_eq (c : Chip) :
    ∃ state : ChipState, state.isInitializing = c.state.isInitializing ∧
      c.readCommand.2 = { c with state } := by
  unfold readCommand
  split
  next h => exact ⟨.normal, by rw [h]; rfl, rfl⟩
  next h => exact ⟨.normal, by rw [h]; rfl, rfl⟩
  all_goals exact ⟨c.state, rfl, rfl⟩

namespace InterruptController

variable {c : InterruptController} {g : Guest}

/-! ## Calm -/

/-- The line that the guest would be entered for if it were offered one now. -/
def deliverable? (c : InterruptController) (g : Guest) : Option Line :=
  if g.isResumable then c.offered? g.vif else none

def Calm (c : InterruptController) (g : Guest) : Prop :=
  g.faulted = true ∨ c.deliverable? g = none

theorem calm_of_offered? (h : c.offered? g.vif = none) : c.Calm g := by
  refine .inr ?_
  rw [deliverable?, h, ite_self]

theorem calm_of_vif (h : g.vif = false) : c.Calm g := by
  refine calm_of_offered? ?_
  rw [offered?, h]
  rfl

theorem calm_of_not_resumable (h : g.isResumable = false) : c.Calm g := by
  refine .inr ?_
  rw [deliverable?, h]
  rfl

/-- After an attempt to take a guest through a vector it will take nothing else. -/
theorem calm_interrupt (c : InterruptController) (g : Guest) (vector : UInt8) :
    c.Calm (g.interrupt vector).2 := by
  obtain hvif | ⟨hresumable, hsame⟩ | hfaulted := g.interrupt_cases vector
  · exact calm_of_vif hvif
  · rw [hsame]
    exact calm_of_not_resumable hresumable
  · exact .inl hfaulted

/-- **An offer** leaves nothing deliverable. -/
theorem calm_deliver (c : InterruptController) (vm : VmId) (g : Guest) :
    (c.deliver vm g).val.2.1.Calm (c.deliver vm g).val.2.2 := by
  obtain ⟨hoffered, hval⟩ | ⟨line, g', -, htaken, hval⟩ | ⟨line, e, g', -, hrefused, hval⟩ :=
    c.deliver_cases vm g
  · rw [hval]
    exact calm_of_offered? hoffered
  · have hcalm := (c.acknowledge line).calm_interrupt g (c.vector line)
    rw [htaken] at hcalm
    rwa [hval]
  · have hcalm := c.calm_interrupt g (c.vector line)
    rw [hrefused] at hcalm
    rwa [hval]

/-- A raise is dropped, or makes an offer. -/
theorem Calm.raise (h : c.Calm g) (vm : VmId) (number : UInt8) :
    (c.raise vm number g).val.2.1.Calm (c.raise vm number g).val.2.2 := by
  obtain hval | ⟨line, -, -, hval⟩ := c.raise_cases vm number g
  · rwa [hval]
  · rw [hval]
    exact (c.latch line).calm_deliver vm g

theorem calm_writeAndDeliver (c : InterruptController) (vm : VmId) (port : UInt16) (value : UInt8)
    (g : Guest) :
    (c.writeAndDeliver vm port value g).val.1.Calm (c.writeAndDeliver vm port value g).val.2 := by
  rw [val_writeAndDeliver]
  exact calm_deliver _ vm g

theorem offered?_readPort (c : InterruptController) (port : UInt16) (vif : Bool) :
    (c.readPort port).2.offered? vif = c.offered? vif := by
  unfold readPort
  rcases decode? port with _ | ⟨side, _ | _⟩
  · rfl
  · rfl
  · show (c.setChip side (c.chip side).readCommand.2).offered? vif = c.offered? vif
    obtain ⟨state, hsame, hread⟩ := (c.chip side).readCommand_eq
    rw [hread]
    cases side with
    | master =>
      have hinitializing : state.isInitializing = c.master.state.isInitializing := hsame
      unfold offered?
      rw [← hinitializing]
      rfl
    | slave => rfl

theorem Calm.readPort (h : c.Calm g) (port : UInt16) : (c.readPort port).2.Calm g := by
  unfold Calm deliverable?
  rw [offered?_readPort]
  exact h

end InterruptController
end RealModeMonitor
