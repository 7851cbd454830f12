import RealModeMonitor.Text.Hex

/-!
# Ranges of ports

A range is a first port and a number of ports, at least one, that ends by port 65535 at the
latest. `contains_iff` gives its ports; two ranges overlap exactly when they share one
(`overlaps_iff`).
-/

namespace RealModeMonitor

structure PortRange where
  start : UInt16
  length : UInt16
  pos : 0 < length.toNat
  fits : start.toNat + length.toNat ≤ 65536
  deriving DecidableEq

namespace PortRange

/-- `length` ports from `start` on, if there are so many and at least one. -/
def ofLength? (start length : UInt16) : Option PortRange :=
  if h : 0 < length.toNat ∧ start.toNat + length.toNat ≤ 65536 then
    some ⟨start, length, h.1, h.2⟩
  else none

/-- The ports from `first` to `last`. All 65536 ports together are more than a range can hold. -/
def inclusive? (first last : UInt16) : Option PortRange :=
  if first.toNat ≤ last.toNat then ofLength? first (last - first + 1) else none

theorem one_pos : 0 < (1 : UInt16).toNat := by decide

theorem add_one_le (port : UInt16) : port.toNat + (1 : UInt16).toNat ≤ 65536 := port.toNat_lt

def single (port : UInt16) : PortRange := ⟨port, 1, one_pos, add_one_le port⟩

/-- The first port after the range. -/
def stop (r : PortRange) : Nat := r.start.toNat + r.length.toNat

def last (r : PortRange) : UInt16 := r.start + (r.length - 1)

def contains (r : PortRange) (port : UInt16) : Bool :=
  decide (r.start.toNat ≤ port.toNat ∧ port.toNat < r.stop)

def overlaps (r s : PortRange) : Bool :=
  decide (r.start.toNat < s.stop ∧ s.start.toNat < r.stop)

def text (r : PortRange) : String :=
  Text.paddedHex 4 r.start.toNat ++ "-" ++ Text.paddedHex 4 r.last.toNat

/-! ## Ports of a range -/

theorem start_lt_stop (r : PortRange) : r.start.toNat < r.stop := by
  have := r.pos
  unfold stop
  omega

theorem contains_iff {r : PortRange} {port : UInt16} :
    r.contains port = true ↔ r.start.toNat ≤ port.toNat ∧ port.toNat < r.stop := by
  simp [contains]

/-- Two ranges overlap exactly when some port lies in both. -/
theorem overlaps_iff {r s : PortRange} :
    r.overlaps s = true ↔ ∃ port, r.contains port = true ∧ s.contains port = true := by
  simp only [overlaps, decide_eq_true_eq, contains_iff]
  constructor
  · intro h
    rcases Nat.le_total r.start.toNat s.start.toNat with hle | hle
    · exact ⟨s.start, ⟨hle, h.2⟩, Nat.le_refl _, s.start_lt_stop⟩
    · exact ⟨r.start, ⟨Nat.le_refl _, r.start_lt_stop⟩, hle, h.1⟩
  · rintro ⟨port, hr, hs⟩
    omega

end PortRange
end RealModeMonitor
