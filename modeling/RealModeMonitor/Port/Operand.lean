/-!
# Operands of port accesses

An access moves one to four bytes; byte `i` belongs to port `port + i`. An operand for reading
starts out zeroed. Wider operands are cut to four bytes.
-/

namespace RealModeMonitor

/-- Bytes of the widest access. -/
def widestAccess : Nat := 4

structure Operand where
  bytes : List UInt8
  narrow : bytes.length ≤ widestAccess

namespace Operand

/-- The first four of the given bytes. -/
def ofBytes (bs : List UInt8) : Operand := ⟨bs.take widestAccess, List.length_take_le _ _⟩

/-- A zeroed operand of `width` bytes. -/
def zeros (width : Nat) : Operand :=
  ⟨List.replicate (min width widestAccess) 0, by
    rw [List.length_replicate]
    exact Nat.min_le_right _ _⟩

def byte (b : UInt8) : Operand := ofBytes [b]

def width (d : Operand) : Nat := d.bytes.length

def isEmpty (d : Operand) : Bool := d.bytes.isEmpty

def get? (d : Operand) (i : Nat) : Option UInt8 := d.bytes[i]?

/-- The operand with byte `i` replaced, if it has one. -/
def set (d : Operand) (i : Nat) (b : UInt8) : Operand :=
  ⟨d.bytes.set i b, by simpa using d.narrow⟩

theorem get?_set (d : Operand) (i j : Nat) (b : UInt8) :
    (d.set i b).get? j = if i = j then (d.get? j).map fun _ => b else d.get? j := by
  simp only [set, get?, List.getElem?_set]
  split
  · subst_vars
    split
    · simp [*]
    · simp [*]
  · rfl

end Operand
end RealModeMonitor
