import RealModeMonitor.Guest.Basic

/-!
# Interrupt request lines

Two chips of eight pins each give sixteen lines: lines 0 to 7 are the pins of the master, lines 8
to 15 those of the slave. `Line.number` and `Line.ofNumber?` are inverse to each other.
-/

namespace RealModeMonitor

inductive Line where
  | master (pin : Fin 8)
  | slave (pin : Fin 8)
  deriving DecidableEq

namespace Line

/-- The two chips. -/
inductive Side where
  | master
  | slave
  deriving DecidableEq

/-- The chip that a line belongs to. -/
def side : Line → Side
  | master _ => .master
  | slave _ => .slave

/-- The pin of its chip that a line is. -/
def pin : Line → Fin 8
  | master pin => pin
  | slave pin => pin

def number : Line → UInt8
  | master pin => UInt8.ofNat pin
  | slave pin => UInt8.ofNat (8 + pin)

def ofNumber? (n : UInt8) : Option Line :=
  if h : n.toNat < 8 then some (master ⟨n.toNat, h⟩)
  else if h : n.toNat < 16 then some (slave ⟨n.toNat - 8, by omega⟩)
  else none

@[simp] theorem ofNumber?_number : ∀ l : Line, ofNumber? l.number = some l
  | master pin => by revert pin; decide
  | slave pin => by revert pin; decide

end Line

/-- An interrupt that a guest took: the line it came from and its vector. -/
structure Delivery where
  line : Line
  vector : UInt8
  deriving DecidableEq

/-- What became of a raised line. -/
inductive IrqOutcome where
  /-- The guest took an interrupt, perhaps one of higher priority than the line raised. -/
  | delivered (d : Delivery)
  /-- The request is latched. -/
  | pending
  /-- The line was in service, does not exist, or has no controller behind it. -/
  | dropped
  deriving DecidableEq

end RealModeMonitor
