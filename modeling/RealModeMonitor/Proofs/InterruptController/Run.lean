import RealModeMonitor.InterruptController.Basic

/-!
# Runs of an interrupt controller

A controller is used through its ports, by raising lines, and by asking it to deliver. Each use
comes with a guest in some state, which need not have anything to do with the guest of the use
before. `Op` has the uses as data, and a controller is `Reachable` if some of them lead to it from
the state that firmware leaves.

**One step.** What an operation can do is said once (`val_writePort`, `deliver_cases`,
`raise_cases`). All of them are made of four changes: a byte written to a chip, a byte read from
it, a request latched, a line acknowledged. What each of the four keeps, every run keeps
(`Reachable.induction`).
-/

namespace RealModeMonitor

/-- The chip after a byte written to its command port or to its data port. -/
def Chip.write (c : Chip) (command : Bool) (value : UInt8) : Chip :=
  (if command then c.writeCommand value else c.writeData value).1

namespace InterruptController

variable {c : InterruptController} {vm : VmId} {g : Guest} {port : UInt16} {value : UInt8}

/-! ## What the operations give -/

theorem val_writePort (c : InterruptController) (vm : VmId) (port : UInt16) (value : UInt8) :
    (c.writePort vm port value).val =
      match decode? port with
      | none => c
      | some (side, command) => c.setChip side ((c.chip side).write command value) := by
  unfold writePort Chip.write
  rcases decode? port with _ | ⟨side, command⟩
  · rfl
  · dsimp only
    generalize (if command then (c.chip side).writeCommand value
      else (c.chip side).writeData value) = written
    obtain ⟨after, _ | _ | _⟩ := written <;> dsimp only <;> split <;> rfl

/-- Everything that delivering can do. -/
theorem deliver_cases (c : InterruptController) (vm : VmId) (g : Guest) :
    (c.offered? g.vif = none ∧ (c.deliver vm g).val = (.ok none, c, g)) ∨
    (∃ line g', c.offered? g.vif = some line ∧ g.interrupt (c.vector line) = (.ok (), g') ∧
      (c.deliver vm g).val = (.ok (some ⟨line, c.vector line⟩), c.acknowledge line, g')) ∨
    (∃ line e g', c.offered? g.vif = some line ∧ g.interrupt (c.vector line) = (.error e, g') ∧
      (c.deliver vm g).val = (.error e, c, g')) := by
  unfold deliver
  cases c.offered? g.vif with
  | none => exact .inl ⟨rfl, rfl⟩
  | some line =>
    rcases hinterrupt : g.interrupt (c.vector line) with ⟨e | _, g'⟩
    · exact .inr (.inr ⟨line, e, g', rfl, hinterrupt, by
        simp only [Traced.val_bind, Guest.val_inject, hinterrupt, Traced.val_pure]⟩)
    · exact .inr (.inl ⟨line, g', rfl, hinterrupt, by
        simp only [Traced.val_bind, Guest.val_inject, hinterrupt, Traced.val_pure]⟩)

/-- Everything that raising a line can do. -/
theorem raise_cases (c : InterruptController) (vm : VmId) (number : UInt8) (g : Guest) :
    (c.raise vm number g).val = (.ok .dropped, c, g) ∨
    ∃ line, Line.ofNumber? number = some line ∧ c.isInService line = false ∧
      (c.raise vm number g).val =
        let (r, c', g') := ((c.latch line).deliver vm g).val
        (r.map outcomeOf, c', g') := by
  unfold raise
  cases Line.ofNumber? number with
  | none => exact .inl rfl
  | some line =>
    cases hserved : c.isInService line with
    | true => exact .inl (by simp only [latch?, hserved, if_true, Traced.val_bind, Traced.val_pure])
    | false =>
      refine .inr ⟨line, rfl, hserved, ?_⟩
      simp only [latch?, hserved, Bool.false_eq_true, if_false, Traced.val_bind, Traced.val_pure]

theorem val_writeAndDeliver (c : InterruptController) (vm : VmId) (port : UInt16) (value : UInt8)
    (g : Guest) :
    (c.writeAndDeliver vm port value g).val =
      ((c.writePort vm port value).val.deliver vm g).val.2 := by
  unfold writeAndDeliver
  simp only [Traced.val_bind]
  split <;> rfl

/-! ## Runs -/

/-- A use of a controller. -/
inductive Op where
  | write (vm : VmId) (port : UInt16) (value : UInt8)
  | read (port : UInt16)
  /-- A write as the guest does it, after which the controller delivers. -/
  | writeAndDeliver (vm : VmId) (port : UInt16) (value : UInt8) (g : Guest)
  | raise (vm : VmId) (number : UInt8) (g : Guest)
  | deliver (vm : VmId) (g : Guest)

def step (c : InterruptController) : Op → InterruptController
  | .write vm port value => (c.writePort vm port value).val
  | .read port => (c.readPort port).2
  | .writeAndDeliver vm port value g => (c.writeAndDeliver vm port value g).val.1
  | .raise vm number g => (c.raise vm number g).val.2.1
  | .deliver vm g => (c.deliver vm g).val.2.1

def run (c : InterruptController) (ops : List Op) : InterruptController := ops.foldl step c

/-- The controllers that some use leads to. -/
def Reachable (c : InterruptController) : Prop := ∃ ops, initial.run ops = c

/-- The changes that operations are made of. -/
structure Preserved (P : InterruptController → Prop) : Prop where
  write : ∀ c side command value, P c → P (c.setChip side ((c.chip side).write command value))
  read : ∀ c side, P c → P (c.setChip side (c.chip side).readCommand.2)
  latch : ∀ c line, c.isInService line = false → P c → P (c.latch line)
  acknowledge : ∀ c line, c.offered? true = some line → P c → P (c.acknowledge line)

theorem offered?_eq_some {vif : Bool} {line : Line} (h : c.offered? vif = some line) :
    c.offered? true = some line := by
  cases vif with
  | true => exact h
  | false => simp [offered?] at h

theorem Preserved.writePort {P : InterruptController → Prop} (hP : Preserved P) (h : P c) :
    P (c.writePort vm port value).val := by
  rw [val_writePort]
  rcases decode? port with _ | ⟨side, command⟩
  · exact h
  · exact hP.write c side command value h

theorem Preserved.deliver {P : InterruptController → Prop} (hP : Preserved P) (h : P c) :
    P (c.deliver vm g).val.2.1 := by
  obtain ⟨-, hval⟩ | ⟨line, g', hoffer, -, hval⟩ | ⟨line, e, g', -, -, hval⟩ :=
    c.deliver_cases vm g
  · rwa [hval]
  · rw [hval]
    exact hP.acknowledge c line (offered?_eq_some hoffer) h
  · rwa [hval]

theorem Preserved.step {P : InterruptController → Prop} (hP : Preserved P) (h : P c) (op : Op) :
    P (c.step op) := by
  cases op with
  | write vm port value => exact hP.writePort h
  | read port =>
    simp only [InterruptController.step, readPort]
    rcases decode? port with _ | ⟨side, _ | _⟩
    · exact h
    · exact h
    · exact hP.read c side h
  | writeAndDeliver vm port value g =>
    simp only [InterruptController.step, val_writeAndDeliver]
    exact hP.deliver (hP.writePort h)
  | raise vm number g =>
    rw [InterruptController.step]
    obtain hval | ⟨line, -, hserved, hval⟩ := c.raise_cases vm number g
    · rwa [hval]
    · rw [hval]
      exact hP.deliver (hP.latch c line hserved h)
  | deliver vm g => exact hP.deliver h

theorem Preserved.run {P : InterruptController → Prop} (hP : Preserved P) (h : P c)
    (ops : List Op) : P (c.run ops) := by
  induction ops generalizing c with
  | nil => exact h
  | cons op ops ih => exact ih (hP.step h op)

theorem Reachable.induction {P : InterruptController → Prop} (hP : Preserved P) (h₀ : P initial)
    (h : Reachable c) : P c := by
  obtain ⟨ops, rfl⟩ := h
  exact hP.run h₀ ops

end InterruptController
end RealModeMonitor
