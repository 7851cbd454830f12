import Std.Data.TreeMap
import RealModeMonitor.Byte
import RealModeMonitor.Text.Hex

/-!
# Guest memory

The memory of a guest is `size` bytes from address 0 on. Only bytes that were written are stored;
all others are 0. `byte` is the view through which memory is described, and `byte_store` says what
a write does to it.

**Bounds.** An access has to start inside memory, even an access of no bytes. A write that starts
inside and runs past the end stores the bytes that fit and then fails; a read gives all its bytes
or none.

Words are little-endian. An interrupt vector is four bytes, the offset before the segment, and
vector `v` stands at address `4 * v`.
-/

namespace RealModeMonitor

/-- The address that `segment:offset` names in real mode. -/
def linear (segment offset : UInt16) : Nat := segment.toNat * 16 + offset.toNat

/-- A place in a segment, as the vector table holds it. -/
structure FarPointer where
  segment : UInt16
  offset : UInt16
  deriving DecidableEq

inductive MemoryError where
  /-- No memory of size 0 can be had from the host. -/
  | emptyRegion
  | outOfBounds (address length : Nat)
  deriving DecidableEq

def MemoryError.message : MemoryError → String
  | emptyRegion => "Failed to allocate guest memory: Failed to create guest memory: " ++
      "Invalid argument (os error 22)"
  | outOfBounds address length => "Guest memory access out of bounds at " ++ Text.hex address ++
      " (" ++ toString length ++ " bytes)"

structure Memory where
  size : Nat
  stored : Std.TreeMap Nat UInt8

namespace Memory

/-- Memory of `size` bytes, all 0. -/
def blank (size : Nat) : Memory := ⟨size, ∅⟩

def allocate (size : Nat) : Except MemoryError Memory :=
  if size = 0 then .error .emptyRegion else .ok (blank size)

/-! ## Bytes -/

/-- The byte at address `a`. -/
def byte (m : Memory) (a : Nat) : UInt8 := m.stored.getD a 0

def setByte (m : Memory) (a : Nat) (b : UInt8) : Memory :=
  { m with stored := m.stored.insert a b }

/-- Put bytes at `a` and the addresses after it. -/
def store (m : Memory) (a : Nat) : List UInt8 → Memory
  | [] => m
  | b :: rest => (m.setByte a b).store (a + 1) rest

@[simp] theorem size_setByte (m : Memory) (a : Nat) (b : UInt8) : (m.setByte a b).size = m.size :=
  rfl

@[simp] theorem byte_blank (size a : Nat) : (blank size).byte a = 0 := Std.TreeMap.getD_emptyc

theorem byte_setByte (m : Memory) (a x : Nat) (b : UInt8) :
    (m.setByte a b).byte x = if a = x then b else m.byte x := by
  simp only [setByte, byte, Std.TreeMap.getD_insert, Nat.compare_eq_eq]

@[simp] theorem size_store (m : Memory) (a : Nat) (bs : List UInt8) :
    (m.store a bs).size = m.size := by
  induction bs generalizing m a with
  | nil => rfl
  | cons b bs ih => rw [store, ih, size_setByte]

/-- A store changes the bytes from `a` on, as many as it is given, and no others. -/
theorem byte_store (m : Memory) (a x : Nat) (bs : List UInt8) :
    (m.store a bs).byte x =
      if a ≤ x then (bs[x - a]?).getD (m.byte x) else m.byte x := by
  induction bs generalizing m a with
  | nil => simp [store]
  | cons b bs ih =>
    rw [store, ih, byte_setByte]
    rcases Nat.lt_trichotomy a x with h | h | h
    · have hx : x - a = (x - (a + 1)) + 1 := by omega
      rw [if_pos (by omega), if_neg (by omega), if_pos (by omega), hx, List.getElem?_cons_succ]
    · subst h
      rw [if_neg (by omega), if_pos rfl, if_pos (Nat.le_refl a), Nat.sub_self]
      rfl
    · rw [if_neg (by omega), if_neg (by omega), if_neg (by omega)]

/-! ## Accesses with bounds -/

/-- Whether `length` bytes from `address` on can be accessed. -/
def Fits (m : Memory) (address length : Nat) : Prop :=
  address < m.size ∧ address + length ≤ m.size

instance (m : Memory) (address length : Nat) : Decidable (m.Fits address length) :=
  inferInstanceAs (Decidable (_ ∧ _))

def write (m : Memory) (address : Nat) (bytes : List UInt8) : Except MemoryError Unit × Memory :=
  if m.Fits address bytes.length then (.ok (), m.store address bytes)
  else (.error (.outOfBounds address bytes.length), m.store address (bytes.take (m.size - address)))

def read (m : Memory) (address length : Nat) : Except MemoryError (List UInt8) :=
  if m.Fits address length then .ok ((List.range length).map fun i => m.byte (address + i))
  else .error (.outOfBounds address length)

def writeWord (m : Memory) (address : Nat) (w : UInt16) : Except MemoryError Unit × Memory :=
  m.write address [Byte.lowByte w, Byte.highByte w]

def readWord (m : Memory) (address : Nat) : Except MemoryError UInt16 :=
  if m.Fits address 2 then .ok (Byte.word (m.byte address) (m.byte (address + 1)))
  else .error (.outOfBounds address 2)

/-! ## The interrupt vector table -/

def readVector (m : Memory) (vector : UInt8) : Except MemoryError FarPointer := do
  let offset ← m.readWord (4 * vector.toNat)
  let segment ← m.readWord (4 * vector.toNat + 2)
  return { segment, offset }

/-- Write the offset, then, if that succeeded, the segment. -/
def writeVector (m : Memory) (vector : UInt8) (target : FarPointer) :
    Except MemoryError Unit × Memory :=
  match m.writeWord (4 * vector.toNat) target.offset with
  | (.ok (), m) => m.writeWord (4 * vector.toNat + 2) target.segment
  | failed => failed

end Memory
end RealModeMonitor
