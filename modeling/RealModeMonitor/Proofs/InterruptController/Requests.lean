import RealModeMonitor.Proofs.InterruptController.Arbitration

/-!
# Requests are neither lost nor duplicated

The **history** of a run has what bears on requests, as it can be seen from outside: raises that
were not dropped, deliveries that were reported, and bytes that start a chip's initialisation. A
raise is **outstanding** if neither a delivery of its line nor such a byte for its chip comes after
it.

**Explanation.** `Explains p h q` says that the history `h` leads from the requests `p` to the
requests `q`, and that every delivery in it takes a request that is there. Each operation explains
the requests after it (`explains_step`), and so does a run (`explains_run`).

Main result: `requests_exact`. After any run a line is requested exactly if it has an outstanding
raise, and every delivery had one.
-/

namespace RealModeMonitor

namespace InterruptController

/-! ## Histories -/

inductive Incident where
  /-- A line was raised, and the request not dropped. -/
  | raised (line : Line)
  | delivered (line : Line)
  /-- The first byte of an initialisation was written to a chip. -/
  | reset (side : Line.Side)
  deriving DecidableEq

/-- What a delivery reports. -/
def deliveryIncidents : Except InjectError (Option Delivery) → List Incident
  | .ok (some d) => [.delivered d.line]
  | .ok none | .error _ => []

/-- What raising a line reports. The interrupt delivered may be another's. -/
def raiseIncidents (number : UInt8) : Except InjectError IrqOutcome → List Incident
  | .ok .dropped => []
  | .ok (.delivered d) => (Line.ofNumber? number).toList.map .raised ++ [.delivered d.line]
  | .ok .pending | .error _ => (Line.ofNumber? number).toList.map .raised

/-- What a byte written to a port does. -/
def writeIncidents (port : UInt16) (value : UInt8) : List Incident :=
  match decode? port with
  | some (side, true) => if Byte.bit value 4 then [.reset side] else []
  | some (_, false) | none => []

def incidents (c : InterruptController) : Op → List Incident
  | .write _ port value => writeIncidents port value
  | .read _ => []
  | .writeAndDeliver vm port value g =>
    writeIncidents port value ++
      deliveryIncidents ((c.writePort vm port value).val.deliver vm g).val.1
  | .raise vm number g => raiseIncidents number (c.raise vm number g).val.1
  | .deliver vm g => deliveryIncidents (c.deliver vm g).val.1

def history (c : InterruptController) : List Op → List Incident
  | [] => []
  | op :: ops => c.incidents op ++ (c.step op).history ops

/-- Some raise of `line` is later than its last delivery and than the last reset of its chip. -/
def Outstanding (line : Line) (h : List Incident) : Prop :=
  ∃ before after, h = before ++ .raised line :: after ∧ .delivered line ∉ after ∧
    .reset line.side ∉ after

/-! ## Explanations -/

/-- The requests after an incident. -/
def Incident.apply (p : Line → Bool) : Incident → Line → Bool
  | raised line, other => p other || decide (other = line)
  | delivered line, other => p other && decide (other ≠ line)
  | reset side, other => p other && decide (other.side ≠ side)

inductive Explains : (Line → Bool) → List Incident → (Line → Bool) → Prop where
  | nil (p : Line → Bool) : Explains p [] p
  | cons {p q : Line → Bool} {i : Incident} {h : List Incident} :
      (∀ line, i = .delivered line → p line = true) → Explains (i.apply p) h q →
      Explains p (i :: h) q

variable {p q r : Line → Bool} {h h' : List Incident} {line : Line}

theorem Explains.append (e : Explains p h q) (e' : Explains q h' r) : Explains p (h ++ h') r := by
  induction e with
  | nil => exact e'
  | cons htaken _ ih => exact .cons htaken (ih e')

theorem Explains.raised (p : Line → Bool) (line : Line) :
    Explains p [.raised line] fun other => p other || decide (other = line) :=
  .cons (fun _ h => nomatch h) (.nil _)

theorem Explains.delivered (hp : p line = true) :
    Explains p [.delivered line] fun other => p other && decide (other ≠ line) :=
  .cons (fun _ h => by rwa [← Incident.delivered.inj h]) (.nil _)

theorem Explains.reset (p : Line → Bool) (side : Line.Side) :
    Explains p [.reset side] fun other => p other && decide (other.side ≠ side) :=
  .cons (fun _ h => nomatch h) (.nil _)

theorem outstanding_cons (i : Incident) :
    Outstanding line (i :: h) ↔ Outstanding line h ∨
      (i = .raised line ∧ .delivered line ∉ h ∧ .reset line.side ∉ h) := by
  constructor
  · rintro ⟨before, after, hh, hafter⟩
    cases before with
    | nil =>
      obtain ⟨rfl, rfl⟩ := List.cons.inj hh
      exact .inr ⟨rfl, hafter⟩
    | cons first before =>
      obtain ⟨-, rfl⟩ := List.cons.inj hh
      exact .inl ⟨before, after, rfl, hafter⟩
  · rintro (⟨before, after, rfl, hafter⟩ | ⟨rfl, hafter⟩)
    · exact ⟨i :: before, after, rfl, hafter⟩
    · exact ⟨[], h, rfl, hafter⟩

/-- What is requested after a history: what was raised and not taken, or was requested before and
is untouched. -/
theorem Explains.requested_iff (e : Explains p h q) (line : Line) :
    q line = true ↔ Outstanding line h ∨
      (p line = true ∧ .delivered line ∉ h ∧ .reset line.side ∉ h) := by
  induction e with
  | nil p => simp [Outstanding]
  | @cons p q i h _ _ ih =>
    rw [ih, outstanding_cons]
    cases i with
    | raised other =>
      by_cases hline : line = other
      · subst hline
        simp only [Incident.apply, decide_true, Bool.or_true, true_and, List.mem_cons,
          reduceCtorEq, false_or, or_assoc]
        exact ⟨Or.imp_right .inl, Or.imp_right (Or.rec id And.right)⟩
      · simp [Incident.apply, hline, Ne.symm hline]
    | delivered other =>
      by_cases hline : line = other <;> simp [Incident.apply, hline]
    | reset side =>
      by_cases hside : line.side = side <;> simp [Incident.apply, hside]

/-- A delivery takes a request that is there. -/
theorem Explains.requested_of_delivered (e : Explains p h q) {before after : List Incident}
    (hh : h = before ++ .delivered line :: after) :
    ∃ r, Explains p before r ∧ r line = true := by
  induction e generalizing before with
  | nil p => simp at hh
  | @cons p q i h htaken _ ih =>
    cases before with
    | nil => exact ⟨p, .nil p, htaken line (List.cons.inj hh).1⟩
    | cons first before =>
      rw [List.cons_append] at hh
      obtain ⟨rfl, rfl⟩ := List.cons.inj hh
      obtain ⟨r, e, hr⟩ := ih rfl
      exact ⟨r, .cons htaken e, hr⟩

end InterruptController

/-! ## One chip -/

namespace Chip

theorem irr_continueSequence (c : Chip) (value : UInt8) :
    (c.continueSequence value).1.irr = c.irr := by
  unfold continueSequence
  cases c.state <;> rfl

theorem irr_endOfInterrupt (c : Chip) : c.endOfInterrupt.irr = c.irr := by
  unfold endOfInterrupt
  cases c.top? <;> rfl

theorem irr_controlService (c : Chip) (value : UInt8) :
    (c.controlService value).1.irr = c.irr := by
  unfold controlService
  split <;> first | rfl | exact c.irr_endOfInterrupt

/-- Only the byte that starts an initialisation changes the requests: it forgets them. -/
theorem irr_write (c : Chip) (command : Bool) (value : UInt8) :
    (c.write command value).irr = if command && Byte.bit value 4 then 0 else c.irr := by
  unfold write
  cases command with
  | true =>
    simp only [if_true, Bool.true_and, writeCommand]
    split
    · rfl
    · split
      · exact c.irr_continueSequence value
      · split
        · rfl
        · exact c.irr_controlService value
  | false =>
    simp only [Bool.false_eq_true, if_false, Bool.false_and, writeData]
    split
    · exact c.irr_continueSequence value
    · rfl

theorem irr_readCommand (c : Chip) : c.readCommand.2.irr = c.irr := by
  unfold readCommand
  cases c.state <;> rfl

end Chip

namespace InterruptController

variable {c : InterruptController}

/-! ## The pair -/

theorem isPending_setChip (c : InterruptController) (side : Line.Side) (chip : Chip)
    (line : Line) :
    (c.setChip side chip).isPending line =
      if side = line.side then chip.requested line.pin else c.isPending line := by
  rw [isPending, owner, chip_setChip]
  split <;> rfl

theorem isPending_latch (c : InterruptController) (line other : Line) :
    (c.latch line).isPending other = (c.isPending other || decide (other = line)) := by
  rw [latch, isPending_setChip]
  cases line <;> cases other <;>
    simp [Line.side, Line.pin, isPending, owner, chip, Chip.requested, Chip.latch, Fin.val_inj,
      eq_comm]

theorem isPending_write (c : InterruptController) (side : Line.Side) (command : Bool)
    (value : UInt8) :
    (c.setChip side ((c.chip side).write command value)).isPending =
      if command && Byte.bit value 4 then fun line => c.isPending line && decide (line.side ≠ side)
      else c.isPending := by
  funext line
  rw [isPending_setChip, Chip.requested, Chip.irr_write]
  by_cases hside : side = line.side
  · subst hside
    cases command && Byte.bit value 4 <;> simp [isPending, owner, Chip.requested]
  · cases command && Byte.bit value 4 <;> simp [hside, Ne.symm hside]

theorem isPending_readPort (c : InterruptController) (port : UInt16) :
    (c.readPort port).2.isPending = c.isPending := by
  unfold readPort
  rcases decode? port with _ | ⟨side, _ | _⟩
  · rfl
  · rfl
  · funext line
    dsimp only
    rw [isPending_setChip, Chip.requested, Chip.irr_readCommand]
    split
    next h => rw [h, isPending, owner, Chip.requested]
    next => rfl

/-- The line that is offered has a request. -/
theorem isPending_of_offered? {vif : Bool} {line : Line} (h : c.offered? vif = some line) :
    c.isPending line = true := by
  obtain ⟨-, -, heligible, -⟩ := offered?_eq_some_iff.1 h
  cases line with
  | master pin => exact heligible.1
  | slave pin =>
    obtain ⟨-, -, hrequested, -⟩ := heligible
    exact hrequested

/-! ## Steps and runs -/

theorem explains_write (c : InterruptController) (vm : VmId) (port : UInt16) (value : UInt8) :
    Explains c.isPending (writeIncidents port value) (c.writePort vm port value).val.isPending := by
  rw [val_writePort]
  unfold writeIncidents
  rcases decode? port with _ | ⟨side, command⟩
  · exact .nil _
  · dsimp only
    rw [isPending_write]
    cases command with
    | false => exact .nil _
    | true =>
      cases hbit : Byte.bit value 4 with
      | false => exact .nil _
      | true => exact .reset c.isPending side

theorem explains_deliver (c : InterruptController) (vm : VmId) (g : Guest) :
    Explains c.isPending (deliveryIncidents (c.deliver vm g).val.1)
      (c.deliver vm g).val.2.1.isPending := by
  obtain ⟨-, hval⟩ | ⟨line, g', hoffer, -, hval⟩ | ⟨line, e, g', -, -, hval⟩ :=
    c.deliver_cases vm g
  · rw [hval]
    exact .nil _
  · rw [hval]
    have hacknowledged : (c.acknowledge line).isPending = _ :=
      funext (c.acknowledged line).isPending
    dsimp only
    rw [hacknowledged]
    exact .delivered (isPending_of_offered? hoffer)
  · rw [hval]
    exact .nil _

/-- A raise that is not dropped adds its request before anything is delivered. -/
theorem explains_raise (c : InterruptController) (vm : VmId) (number : UInt8) (g : Guest) :
    Explains c.isPending (raiseIncidents number (c.raise vm number g).val.1)
      (c.raise vm number g).val.2.1.isPending := by
  obtain hval | ⟨line, hline, -, hval⟩ := c.raise_cases vm number g
  · rw [hval]
    exact .nil _
  · have hlatched : (c.latch line).isPending = _ := funext (c.isPending_latch line)
    have e := Explains.append (.raised c.isPending line)
      (hlatched ▸ (c.latch line).explains_deliver vm g)
    have hincidents : raiseIncidents number (c.raise vm number g).val.1 =
        [.raised line] ++ deliveryIncidents ((c.latch line).deliver vm g).val.1 := by
      rw [hval]
      rcases ((c.latch line).deliver vm g).val with ⟨_ | _ | _, -, -⟩ <;>
        simp [raiseIncidents, deliveryIncidents, Except.map, outcomeOf, hline]
    rw [hincidents, hval]
    exact e

theorem explains_step (c : InterruptController) (op : Op) :
    Explains c.isPending (c.incidents op) (c.step op).isPending := by
  cases op with
  | write vm port value => exact c.explains_write vm port value
  | read port =>
    rw [step, isPending_readPort]
    exact .nil _
  | writeAndDeliver vm port value g =>
    rw [step, val_writeAndDeliver]
    exact (c.explains_write vm port value).append (explains_deliver _ vm g)
  | raise vm number g => exact c.explains_raise vm number g
  | deliver vm g => exact c.explains_deliver vm g

theorem explains_run (c : InterruptController) (ops : List Op) :
    Explains c.isPending (c.history ops) (c.run ops).isPending := by
  induction ops generalizing c with
  | nil => exact .nil _
  | cons op ops ih => exact (c.explains_step op).append (ih (c.step op))

theorem isPending_initial (line : Line) : initial.isPending line = false := by
  cases line with
  | master pin => exact Byte.bit_zero pin
  | slave pin => exact Byte.bit_zero pin

theorem Explains.requested_iff_outstanding (e : Explains initial.isPending h q) (line : Line) :
    q line = true ↔ Outstanding line h := by
  simp [e.requested_iff, isPending_initial]

/-- **Requests are neither lost nor duplicated.** After any run a line is requested exactly if it
has an outstanding raise, and every delivery had one. -/
theorem requests_exact (ops : List Op) :
    (∀ line, (initial.run ops).isPending line = true ↔ Outstanding line (initial.history ops)) ∧
    ∀ line before after, initial.history ops = before ++ .delivered line :: after →
      Outstanding line before := by
  have e := explains_run initial ops
  refine ⟨e.requested_iff_outstanding, ?_⟩
  intro line before after hhistory
  obtain ⟨r, e', hrequested⟩ := e.requested_of_delivered hhistory
  exact (e'.requested_iff_outstanding line).1 hrequested

end InterruptController
end RealModeMonitor
