import RealModeMonitor.DmaController.Basic

/-!
# The port map of the DMA controllers

`Target.port` says at which port a register stands. A port leads to the register that stands there
(`ofPort?_word_iff`, `ofPort?_control_iff`), and no two ports lead to one register
(`port_of_ofPort?`). Nothing is behind the ports outside the three blocks and the odd ones of the
second chip (`ofPort?_eq_none_iff`).
-/

namespace RealModeMonitor

namespace DmaChip

/-- The place of a word among the two of its channel. -/
def WordRegister.place : WordRegister → Nat
  | address => 0
  | length => 1

/-- The place of a control register among the eight. -/
def ControlRegister.place : ControlRegister → Nat
  | command => 0
  | request => 1
  | singleMask => 2
  | mode => 3
  | clearFlipFlops => 4
  | masterClear => 5
  | clearMask => 6
  | allMask => 7

end DmaChip

namespace DmaController

open DmaChip

variable {c : Fin 2} {i : Fin 4} {r : WordRegister} {n : UInt8}

/-! ## Numbers of channels -/

/-- The number of a channel. -/
def number (c : Fin 2) (i : Fin 4) : UInt8 := UInt8.ofNat (4 * c + i)

theorem channelOf?_eq_some_iff : channelOf? n = some (c, i) ↔ n = number c i := by
  constructor
  · intro h
    unfold channelOf? at h
    split at h
    next =>
      obtain ⟨rfl, rfl⟩ := Prod.mk.inj (Option.some.inj h)
      rw [number, Nat.div_add_mod, UInt8.ofNat_toNat]
    next => cases h
  · rintro rfl
    revert c i
    decide

/-! ## Ports of registers -/

namespace Target

/-- The port at a place of a chip's block. -/
def blockPort (c : Fin 2) (place : Nat) : UInt16 :=
  if c.val = 0 then UInt16.ofNat place else UInt16.ofNat (0xC0 + 2 * place)

/-- Where the page registers stand, by the numbers of their channels. -/
def pagePorts : Vector UInt16 8 := #v[0x87, 0x83, 0x81, 0x82, 0x8F, 0x8B, 0x89, 0x8A]

/-- The port of a register. -/
def port : Target → UInt16
  | word c i r => blockPort c (2 * i + r.place)
  | control c r => blockPort c (8 + r.place)
  | page c i => pagePorts[4 * c.val + i.val]
  | scratch i => UInt16.ofNat (0x80 + i)

variable {port : UInt16}

theorem port_ofIndex (c : Fin 2) (k : Fin 16) : (ofIndex c k).port = blockPort c k := by
  revert c k
  decide

theorem port_ofPageIndex (k : Fin 16) : (ofPageIndex k).port = UInt16.ofNat (0x80 + k) := by
  revert k
  decide

/-- A register is reached through its own port only. -/
theorem port_of_ofPort? {t : Target} (h : ofPort? port = some t) : t.port = port := by
  apply UInt16.toNat_inj.1
  unfold ofPort? at h
  dsimp only at h
  split at h
  next hlow =>
    obtain rfl := Option.some.inj h
    exact congrArg UInt16.toNat ((port_ofIndex 0 _).trans UInt16.ofNat_toNat)
  next =>
    split at h
    next hpage =>
      obtain rfl := Option.some.inj h
      rw [port_ofPageIndex, Nat.add_sub_cancel' hpage.1, UInt16.ofNat_toNat]
    next =>
      split at h
      next hhigh =>
        obtain rfl := Option.some.inj h
        rw [port_ofIndex, blockPort, if_neg (by decide), UInt16.toNat_ofNat']
        dsimp only
        omega
      next => cases h

theorem ofPort?_word_iff : ofPort? port = some (word c i r) ↔ port = (word c i r).port := by
  constructor
  · exact fun h => (port_of_ofPort? h).symm
  · rintro rfl
    cases r <;> revert c i <;> decide +kernel

theorem ofPort?_control_iff {r : ControlRegister} :
    ofPort? port = some (control c r) ↔ port = (control c r).port := by
  constructor
  · exact fun h => (port_of_ofPort? h).symm
  · rintro rfl
    cases r <;> revert c <;> decide +kernel

/-- The ports that lead nowhere. -/
theorem ofPort?_eq_none_iff : ofPort? port = none ↔
    0x10 ≤ port.toNat ∧ ¬(0x80 ≤ port.toNat ∧ port.toNat < 0x90) ∧
      ¬(0xC0 ≤ port.toNat ∧ port.toNat < 0xE0 ∧ port.toNat % 2 = 0) := by
  rw [← Nat.not_lt]
  unfold ofPort?
  dsimp only
  split
  next hlow => simp [hlow]
  next hlow =>
    split
    next hpage => simp [hpage]
    next hpage =>
      split
      next hhigh => simp [hhigh]
      next hhigh => simp [hlow, hpage, hhigh]

end Target

end DmaController
end RealModeMonitor
