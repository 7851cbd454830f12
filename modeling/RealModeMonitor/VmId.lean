/-!
# Names of guest sessions

A session (VM) lives in a numbered slot. A slot is used again after its session dies, so the
name of a session also holds the slot's **generation**, which grows with every removal: a name
kept past the death of its session never reaches the next one in that slot.
-/

namespace RealModeMonitor

@[ext] structure VmId where
  slot : UInt16
  generation : UInt32
  deriving DecidableEq

/-- `vm`, the slot, a point, the generation. -/
def VmId.text (id : VmId) : String := s!"vm{id.slot.toNat}.{id.generation.toNat}"

instance : ToString VmId := ⟨VmId.text⟩

/-- A device is named by its place in its session's arena. -/
abbrev DeviceId := Nat

end RealModeMonitor
