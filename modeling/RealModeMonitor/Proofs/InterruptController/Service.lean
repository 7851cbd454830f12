import RealModeMonitor.Proofs.InterruptController.Arbitration

/-!
# Service is nested

A guest that is interrupted in a handler returns to it later, so the interrupts of a chip end in
the reverse order of their deliveries. A chip does not remember that order: it has one bit per pin
in service, and an end of interrupt clears the lowest bit that is set.

**Turns.** The run of a controller is followed by what can be seen of it: the first byte of an
initialisation clears a chip, a delivery enters its line, and with a line of the slave the master's
cascade pin, unless the chip ends interrupts by itself, and an end of interrupt ends one. The
`Nesting` of a chip is the stack that these turns make, the last pin entered first.

**Invariant.** A chip is `Nested` in a stack if its pins in service are those on the stack and each
of them has a higher priority than all pins below it. A delivery keeps that, because only an urgent
pin is delivered (`Nested.serve`). So the pin of highest priority is the top of the stack, and the
bit that an end of interrupt clears is the one that belongs to it (`Nested.endOfInterrupt`).

Main result: `service_nests`.
-/

namespace RealModeMonitor

/-! ## One chip -/

namespace Chip

variable {c c' : Chip} {l : List (Fin 8)} {pin : Fin 8}

/-- The commands of OCW2 that end an interrupt: the plain one, the one that names a level, and
both of them with a rotation. -/
def endCommands : List Nat := [1, 3, 5, 7]

/-- Whether a byte for the command port ends an interrupt. -/
def takesEnd (c : Chip) (value : UInt8) : Bool :=
  !Byte.bit value 4 && !c.state.isInitializing && !Byte.bit value 3 &&
    decide ((value >>> 5).toNat ∈ endCommands)

theorem isr_controlService (c : Chip) (value : UInt8) :
    (c.controlService value).1.isr =
      if (value >>> 5).toNat ∈ endCommands then c.endOfInterrupt.isr else c.isr := by
  unfold controlService
  split <;> simp_all [endCommands]

theorem isr_continueSequence (c : Chip) (value : UInt8) :
    (c.continueSequence value).1.isr = c.isr := by
  unfold continueSequence
  cases c.state <;> rfl

/-- Of all bytes only the first of an initialisation and an end of interrupt change what is in
service. -/
theorem isr_write (c : Chip) (command : Bool) (value : UInt8) :
    (c.write command value).isr =
      if command && Byte.bit value 4 then 0
      else if command && c.takesEnd value then c.endOfInterrupt.isr
      else c.isr := by
  unfold write
  cases command with
  | false =>
    simp only [Bool.false_eq_true, if_false, Bool.false_and, writeData]
    split
    · exact c.isr_continueSequence value
    · rfl
  | true =>
    simp only [if_true, Bool.true_and, writeCommand, takesEnd]
    by_cases hreset : Byte.bit value 4
    · simp [hreset, beginSequence]
    by_cases hstate : c.state.isInitializing
    · simp [hreset, hstate, isr_continueSequence]
    by_cases hread : Byte.bit value 3
    · simp [hreset, hstate, hread, controlRead]
    · simp [hreset, hstate, hread, isr_controlService]

theorem isr_readCommand (c : Chip) : c.readCommand.2.isr = c.isr := by
  unfold readCommand
  cases c.state <;> rfl

theorem inService_endOfInterrupt (c : Chip) (pin : Fin 8) :
    c.endOfInterrupt.inService pin = (c.inService pin && decide (c.top? ≠ some pin)) := by
  unfold endOfInterrupt
  cases htop : c.top? with
  | none => simp
  | some top => simp [inService, Fin.val_inj]

/-! ## Stacks -/

/-- The pins in service are those of `l`, where each precedes those after it. -/
structure Nested (c : Chip) (l : List (Fin 8)) : Prop where
  inService : ∀ pin, c.inService pin = true ↔ pin ∈ l
  ascending : l.Pairwise (· < ·)

theorem Nested.of_isr (h : c.Nested l) (hisr : c'.isr = c.isr) : c'.Nested l := by
  refine ⟨fun pin => ?_, h.ascending⟩
  rw [Chip.inService, hisr]
  exact h.inService pin

theorem nested_of_isr_zero (h : c.isr = 0) : c.Nested [] := by
  refine ⟨fun pin => ?_, .nil⟩
  simp [inService, h]

/-- The pin of highest priority in service is the top of the stack. -/
theorem Nested.top? (h : c.Nested l) : c.top? = l.head? := by
  cases l with
  | nil =>
    refine Byte.first?_eq_none_iff.2 fun pin => ?_
    have hpin := h.inService pin
    simpa [Chip.inService] using hpin
  | cons top rest =>
    obtain ⟨hbelow, -⟩ := List.pairwise_cons.1 h.ascending
    refine Byte.first?_eq_some_iff.2 ⟨(h.inService top).2 List.mem_cons_self, ?_⟩
    intro pin hlt
    apply Bool.eq_false_iff.2
    intro hserved
    rcases List.mem_cons.1 ((h.inService pin).1 hserved) with rfl | hmem
    · exact Fin.lt_irrefl pin hlt
    · exact Fin.lt_asymm hlt (hbelow pin hmem)

/-- **An end of interrupt** takes the top off the stack. -/
theorem Nested.endOfInterrupt (h : c.Nested l) : c.endOfInterrupt.Nested l.tail := by
  refine ⟨fun pin => ?_, h.ascending.tail⟩
  rw [inService_endOfInterrupt, h.top?]
  cases l with
  | nil => simpa using h.inService pin
  | cons top rest =>
    obtain ⟨hbelow, -⟩ := List.pairwise_cons.1 h.ascending
    have htop : top ∉ rest := fun hmem => Fin.lt_irrefl top (hbelow top hmem)
    rw [Bool.and_eq_true, h.inService pin]
    by_cases hpin : pin = top
    · subst hpin
      simp [htop]
    · simp [hpin, Ne.symm hpin]

/-- **An urgent pin** goes on top. -/
theorem Nested.serve (h : c.Nested l) (hurgent : c.Urgent pin) :
    (c.serve pin).Nested (if c.autoEoi then l else pin :: l) := by
  by_cases hauto : c.autoEoi
  · rw [if_pos hauto]
    refine h.of_isr ?_
    simp [Chip.serve, hauto]
  rw [if_neg hauto]
  refine ⟨fun other => ?_, ?_⟩
  · rw [inService_serve, List.mem_cons, ← h.inService other]
    simp [hauto, or_comm]
  · refine List.pairwise_cons.2 ⟨?_, h.ascending⟩
    intro other hother
    exact hurgent other ((h.inService other).2 hother)

theorem Nested.write (h : c.Nested l) (command : Bool) (value : UInt8) :
    (c.write command value).Nested
      (if command && Byte.bit value 4 then []
      else if command && c.takesEnd value then l.tail
      else l) := by
  have hisr := c.isr_write command value
  split
  next hreset =>
    rw [if_pos hreset] at hisr
    exact nested_of_isr_zero hisr
  next hreset =>
    rw [if_neg hreset] at hisr
    split
    next hends =>
      rw [if_pos hends] at hisr
      exact h.endOfInterrupt.of_isr hisr
    next hends =>
      rw [if_neg hends] at hisr
      exact h.of_isr hisr

end Chip

namespace InterruptController

/-! ## Turns -/

/-- What happens to the pins in service. -/
inductive Turn where
  /-- An initialisation begins, and the chip forgets what is in service. -/
  | cleared (side : Line.Side)
  /-- A line is put in service. -/
  | entered (line : Line)
  /-- The chip is told of an end of interrupt. -/
  | ended (side : Line.Side)
  deriving DecidableEq

/-- The pins of each chip that were entered and not ended, the last one first. -/
abbrev Nesting := Line.Side → List (Fin 8)

namespace Nesting

def empty : Nesting := fun _ => []

def after (s : Nesting) : Turn → Nesting
  | .cleared side => fun other => if other = side then [] else s other
  | .entered line => fun other => if other = line.side then line.pin :: s other else s other
  | .ended side => fun other => if other = side then (s other).tail else s other

end Nesting

variable {c : InterruptController} {s : Nesting} {line : Line}

/-- What a byte written to a port does. -/
def writeTurns (c : InterruptController) (port : UInt16) (value : UInt8) : List Turn :=
  match decode? port with
  | some (side, true) =>
    if Byte.bit value 4 then [.cleared side]
    else if (c.chip side).takesEnd value then [.ended side]
    else []
  | some (_, false) | none => []

/-- What the delivery of a line puts in service. -/
def entries (c : InterruptController) (line : Line) : List Turn :=
  ((c.takenWith line).filter fun taken => !(c.owner taken).autoEoi).map .entered

def deliveryTurns (c : InterruptController) : Except InjectError (Option Delivery) → List Turn
  | .ok (some d) => c.entries d.line
  | .ok none | .error _ => []

def raiseTurns (c : InterruptController) : Except InjectError IrqOutcome → List Turn
  | .ok (.delivered d) => c.entries d.line
  | .ok .pending | .ok .dropped | .error _ => []

def turns (c : InterruptController) : Op → List Turn
  | .write _ port value => c.writeTurns port value
  | .read _ => []
  | .writeAndDeliver vm port value g =>
    let written := (c.writePort vm port value).val
    c.writeTurns port value ++ written.deliveryTurns (written.deliver vm g).val.1
  | .raise vm number g => c.raiseTurns (c.raise vm number g).val.1
  | .deliver vm g => c.deliveryTurns (c.deliver vm g).val.1

/-- The nesting after a run that begins with nesting `s`. -/
def nesting (c : InterruptController) (s : Nesting) : List Op → Nesting
  | [] => s
  | op :: ops => (c.step op).nesting ((c.turns op).foldl Nesting.after s) ops

/-! ## The pair -/

def Nested (c : InterruptController) (s : Nesting) : Prop := ∀ side, (c.chip side).Nested (s side)

theorem nested_initial : initial.Nested .empty := by
  intro side
  cases side with
  | master => exact Chip.nested_of_isr_zero rfl
  | slave => exact Chip.nested_of_isr_zero rfl

theorem Nested.setChip (h : c.Nested s) {side : Line.Side} {chip : Chip} {l : List (Fin 8)}
    (hchip : chip.Nested l) :
    (c.setChip side chip).Nested fun other => if other = side then l else s other := by
  intro other
  rw [chip_setChip]
  by_cases hside : side = other
  · subst hside
    simpa using hchip
  · simpa [hside, Ne.symm hside] using h other

theorem Nested.writePort (h : c.Nested s) (vm : VmId) (port : UInt16) (value : UInt8) :
    (c.writePort vm port value).val.Nested ((c.writeTurns port value).foldl Nesting.after s) := by
  rw [val_writePort]
  unfold writeTurns
  rcases decode? port with _ | ⟨side, command⟩
  · exact h
  have hwritten := (h side).write command value
  have hset : (c.setChip side ((c.chip side).write command value)).Nested _ := h.setChip hwritten
  have hsame : (fun other => if other = side then s side else s other) = s := by
    funext other
    by_cases hother : other = side <;> simp [hother]
  cases command with
  | false => simpa [hsame] using hset
  | true =>
    by_cases hreset : Byte.bit value 4
    · simpa [hreset, Nesting.after] using hset
    by_cases hends : (c.chip side).takesEnd value
    · have htail : (fun other => if other = side then (s side).tail else s other) =
          s.after (.ended side) := by
        funext other
        by_cases hother : other = side <;> simp [Nesting.after, hother]
      simpa [hreset, hends, htail] using hset
    · simpa [hreset, hends, hsame] using hset

/-- What is put in service with an offered line is urgent on its chip. -/
theorem urgent_of_offered? (h : c.offered? true = some line) :
    ∀ taken ∈ c.takenWith line, (c.owner taken).Urgent taken.pin := by
  obtain ⟨-, -, heligible, -⟩ := offered?_eq_some_iff.1 h
  cases line with
  | master pin =>
    intro taken htaken
    obtain rfl := List.mem_singleton.1 htaken
    exact heligible.2.2
  | slave pin =>
    obtain ⟨cascade, hcascade, -, -, hslave, -, hmaster⟩ := heligible
    intro taken htaken
    rw [takenWith, hcascade] at htaken
    rcases List.mem_cons.1 htaken with rfl | htaken
    · exact hslave
    · obtain rfl : taken = .master cascade := by simpa using htaken
      exact hmaster

theorem Nested.acknowledge (h : c.Nested s) (hoffer : c.offered? true = some line) :
    (c.acknowledge line).Nested ((c.entries line).foldl Nesting.after s) := by
  have hurgent := urgent_of_offered? hoffer
  have hunlatched : ∀ (side : Line.Side) (pin : Fin 8),
      ((c.chip side).unlatch pin).Nested (s side) := fun side pin => (h side).of_isr rfl
  cases line with
  | master pin =>
    have hserved : ((c.master.unlatch pin).serve pin).Nested _ :=
      (hunlatched .master pin).serve (hurgent (.master pin) List.mem_cons_self)
    intro side
    cases side with
    | slave =>
      have hsame : (c.entries (.master pin)).foldl Nesting.after s .slave = s .slave := by
        by_cases hauto : c.master.autoEoi <;>
          simp [entries, takenWith, owner, chip, Line.side, hauto, Nesting.after]
      rw [hsame]
      exact h .slave
    | master =>
      rw [acknowledge_master]
      by_cases hauto : c.master.autoEoi <;>
        simpa [entries, takenWith, owner, chip, Line.side, Line.pin, hauto, Nesting.after,
          Chip.autoEoi_unlatch] using hserved
  | slave pin =>
    obtain ⟨-, -, ⟨cascade, hcascade, -⟩, -⟩ := offered?_eq_some_iff.1 hoffer
    have hserved : ((c.slave.unlatch pin).serve pin).Nested _ :=
      (hunlatched .slave pin).serve (hurgent (.slave pin) List.mem_cons_self)
    have hwired : (c.master.serve cascade).Nested _ :=
      (h .master).serve (hurgent (.master cascade) (by simp [takenWith, hcascade]))
    rw [acknowledge_slave, hcascade]
    intro side
    cases side with
    | slave =>
      by_cases hauto : c.slave.autoEoi <;> by_cases hmaster : c.master.autoEoi <;>
        simpa [entries, takenWith, hcascade, owner, chip, Line.side, Line.pin, hauto, hmaster,
          Nesting.after, Chip.autoEoi_unlatch] using hserved
    | master =>
      by_cases hauto : c.slave.autoEoi <;> by_cases hmaster : c.master.autoEoi <;>
        simpa [entries, takenWith, hcascade, owner, chip, Line.side, Line.pin, hauto, hmaster,
          Nesting.after] using hwired

theorem Nested.deliver (h : c.Nested s) (vm : VmId) (g : Guest) :
    (c.deliver vm g).val.2.1.Nested
      ((c.deliveryTurns (c.deliver vm g).val.1).foldl Nesting.after s) := by
  obtain ⟨-, hval⟩ | ⟨line, g', hoffer, -, hval⟩ | ⟨line, e, g', -, -, hval⟩ :=
    c.deliver_cases vm g
  · rw [hval]
    exact h
  · rw [hval]
    exact h.acknowledge (offered?_eq_some hoffer)
  · rw [hval]
    exact h

theorem Nested.latch (h : c.Nested s) (line : Line) : (c.latch line).Nested s := by
  intro side
  rw [InterruptController.latch, chip_setChip]
  split
  next hside =>
    subst hside
    exact (h line.side).of_isr rfl
  next => exact h side

/-- A request makes no difference to what a delivery puts in service. -/
theorem entries_latch (c : InterruptController) (line : Line) :
    (c.latch line).entries = c.entries := by
  have howner : ∀ other : Line, ((c.latch line).owner other).autoEoi = (c.owner other).autoEoi := by
    intro other
    rw [owner, latch, chip_setChip]
    split
    next hside => rw [owner, owner, hside]; rfl
    next => rfl
  have htaken : (c.latch line).takenWith = c.takenWith := by
    have hcascade : (c.latch line).cascade? = c.cascade? := by
      cases line <;> rfl
    funext other
    cases other with
    | master pin => rfl
    | slave pin => rw [takenWith, hcascade, takenWith]
  funext other
  simp only [entries, howner, htaken]

theorem Nested.raise (h : c.Nested s) (vm : VmId) (number : UInt8) (g : Guest) :
    (c.raise vm number g).val.2.1.Nested
      ((c.raiseTurns (c.raise vm number g).val.1).foldl Nesting.after s) := by
  obtain hval | ⟨line, -, -, hval⟩ := c.raise_cases vm number g
  · rw [hval]
    exact h
  · have hdelivered := (h.latch line).deliver vm g
    rw [hval]
    generalize ((c.latch line).deliver vm g).val = delivered at hdelivered ⊢
    obtain ⟨_ | _ | d, c', g'⟩ := delivered
    · exact hdelivered
    · exact hdelivered
    · simpa [deliveryTurns, raiseTurns, entries_latch, Except.map, outcomeOf] using hdelivered

/-! ## Steps and runs -/

theorem nested_step (h : c.Nested s) (op : Op) :
    (c.step op).Nested ((c.turns op).foldl Nesting.after s) := by
  cases op with
  | write vm port value => exact h.writePort vm port value
  | read port =>
    intro side
    show ((c.readPort port).2.chip side).Nested (s side)
    unfold readPort
    rcases decode? port with _ | ⟨read, _ | _⟩
    · exact h side
    · exact h side
    · dsimp only
      rw [chip_setChip]
      split
      next hside =>
        subst hside
        exact (h read).of_isr (Chip.isr_readCommand _)
      next => exact h side
  | writeAndDeliver vm port value g =>
    rw [step, val_writeAndDeliver, turns, List.foldl_append]
    exact (h.writePort vm port value).deliver vm g
  | raise vm number g => exact h.raise vm number g
  | deliver vm g => exact h.deliver vm g

theorem nested_run (h : c.Nested s) (ops : List Op) : (c.run ops).Nested (c.nesting s ops) := by
  induction ops generalizing c s with
  | nil => exact h
  | cons op ops ih => exact ih (nested_step h op)

/-- What an end of interrupt does in a nested pair. -/
theorem Nested.isInService_end (h : c.Nested s) {side : Line.Side} {port : UInt16} {value : UInt8}
    (hport : decode? port = some (side, true)) (hends : (c.chip side).takesEnd value = true)
    (vm : VmId) (line : Line) :
    (c.writePort vm port value).val.isInService line =
      (c.isInService line && !decide (line.side = side ∧ (s side).head? = some line.pin)) := by
  have hreset : Byte.bit value 4 = false := by
    unfold Chip.takesEnd at hends
    simp only [Bool.and_eq_true, Bool.not_eq_true'] at hends
    exact hends.1.1.1
  rw [val_writePort, hport]
  dsimp only
  rw [isInService, owner, chip_setChip]
  by_cases hside : side = line.side
  · subst hside
    rw [if_pos rfl, Chip.inService, Chip.isr_write]
    simp only [Bool.true_and, hreset, Bool.false_eq_true, if_false, hends, if_true]
    rw [← Chip.inService, Chip.inService_endOfInterrupt, (h line.side).top?]
    simp [isInService, owner]
  · simp [hside, Ne.symm hside, isInService, owner]

/-- **Service is nested.** After any run the pins of a chip in service are those on its stack, each
of them once and of higher priority than the ones entered before it, and an end of interrupt retires
the pin entered last, or nothing if there is none. -/
theorem service_nests (ops : List Op) :
    let c := initial.run ops
    let s := initial.nesting .empty ops
    (∀ side pin, (c.chip side).inService pin = true ↔ pin ∈ s side) ∧
    (∀ side, (s side).Nodup ∧ (s side).Pairwise (· < ·)) ∧
    ∀ side port value, decode? port = some (side, true) → (c.chip side).takesEnd value = true →
      ∀ vm line, (c.writePort vm port value).val.isInService line =
        (c.isInService line && !decide (line.side = side ∧ (s side).head? = some line.pin)) := by
  intro c s
  have h : c.Nested s := nested_run nested_initial ops
  refine ⟨fun side => (h side).inService, fun side => ?_, ?_⟩
  · exact ⟨(h side).ascending.imp fun hlt => Fin.ne_of_lt hlt, (h side).ascending⟩
  · intro side port value hport hends vm line
    exact h.isInService_end hport hends vm line

end InterruptController
end RealModeMonitor
