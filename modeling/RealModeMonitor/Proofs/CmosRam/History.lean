import RealModeMonitor.CmosRam
import RealModeMonitor.Proofs.LastWrite

/-!
# The CMOS memory over its history

What the guest reads in a register is what it wrote there last, and what counts as written there is
read off the history of accesses: a byte for the data port goes to the register that was selected
last (`written`).

Three registers are not plain. Writes leave bit 7 of register A and all of registers C and D as they
are, so these keep what they hold when the machine starts. `Quiet` has the parts of it that other
registers do not need; while they hold, `stored?` says what a byte for a register leaves in it, and
`register_run` what a history does.

Main result: `last_write_wins`.
-/

namespace RealModeMonitor.CmosRam

variable {c : CmosRam} {r : Fin 128}

/-! ## Histories -/

inductive Access where
  | write (port : UInt16) (value : UInt8)
  | read (port : UInt16)

def access (c : CmosRam) : Access → CmosRam
  | .write port v => c.writePort port v
  | .read port => (c.readPort port).2

def run (c : CmosRam) (l : List Access) : CmosRam := l.foldl access c

/-- The register that an access selects. -/
def Access.selects? : Access → Option (Fin 128)
  | .write port v => if port = indexPort then some (indexOf v) else none
  | .read _ => none

/-- The bytes that are written to the data port while `r` is selected, when `s` is selected at
first. -/
def written (r s : Fin 128) : List Access → List UInt8
  | [] => []
  | .write port v :: l =>
    if port = indexPort then written r (indexOf v) l
    else if port = dataPort ∧ s = r then v :: written r s l
    else written r s l
  | .read _ :: l => written r s l

/-! ## Registers -/

theorem register_setRegister (c : CmosRam) (s r : Fin 128) (v : UInt8) :
    (c.setRegister s v).register r = if s = r then v else c.register r := by
  simp only [register, setRegister, Fin.getElem_fin, Vector.getElem_set, Fin.val_inj]

/-- What a byte for a register leaves in it; nothing if it is read only. -/
def stored? (r : Fin 128) (v : UInt8) : Option UInt8 :=
  if r = statusA then some (v &&& 0x7F) else if r = statusC ∨ r = statusD then none else some v

/-- No update is in progress, and no interrupt of the clock is pending. -/
structure Quiet (c : CmosRam) : Prop where
  statusA : c.register statusA &&& 0x80 = 0
  statusC : c.register statusC = 0

theorem register_initial (memory : Nat) (r : Fin 128) :
    (initial memory).register r = initialRegister memory r := by
  simp only [initial, register, Fin.getElem_fin, Vector.getElem_ofFn]

theorem quiet_initial (memory : Nat) : (initial memory).Quiet where
  statusA := by
    rw [register_initial]
    show (0x26 : UInt8) &&& 0x80 = 0
    decide
  statusC := by
    rw [register_initial]
    rfl

theorem setRegister_register (c : CmosRam) (r : Fin 128) : c.setRegister r (c.register r) = c := by
  simp only [setRegister, register, Fin.getElem_fin, Vector.set_getElem_self]

/-! ## One access -/

theorem selected_writeSelected (c : CmosRam) (v : UInt8) :
    (c.writeSelected v).selected = c.selected := by
  unfold writeSelected
  split
  next => rfl
  next => split <;> rfl

theorem register_writeSelected (hc : c.Quiet) (r : Fin 128) (v : UInt8) :
    (c.writeSelected v).register r =
      if c.selected = r then (stored? r v).getD (c.register r) else c.register r := by
  unfold writeSelected
  split
  next h =>
    rw [register_setRegister, h]
    split
    next hr =>
      subst hr
      rw [hc.statusA, UInt8.zero_or]
      rfl
    next => rfl
  next hA =>
    split
    next h =>
      split
      next hr =>
        subst hr
        rw [stored?, if_neg hA, if_pos h, Option.getD_none]
      next => rfl
    next h =>
      rw [register_setRegister]
      split
      next hr =>
        subst hr
        rw [stored?, if_neg hA, if_neg h, Option.getD_some]
      next => rfl

theorem Quiet.writeSelected (hc : c.Quiet) (v : UInt8) : (c.writeSelected v).Quiet where
  statusA := by
    rw [register_writeSelected hc]
    split
    next =>
      show v &&& 0x7F &&& 0x80 = 0
      rw [UInt8.and_assoc]
      exact UInt8.and_zero
    next => exact hc.statusA
  statusC := by
    rw [register_writeSelected hc]
    split
    next => exact hc.statusC
    next => exact hc.statusC

/-- No read changes anything. -/
theorem access_read (hc : c.Quiet) (port : UInt16) : c.access (.read port) = c := by
  simp only [access, readPort]
  split
  next =>
    dsimp only
    split
    next =>
      rw [← hc.statusC]
      exact c.setRegister_register _
    next => rfl
  next => rfl

theorem Quiet.access (hc : c.Quiet) (a : Access) : (c.access a).Quiet := by
  cases a with
  | write port v =>
    simp only [CmosRam.access, writePort]
    split
    next => exact ⟨hc.statusA, hc.statusC⟩
    next =>
      split
      next => exact hc.writeSelected v
      next => exact hc
  | read port =>
    rw [access_read hc]
    exact hc

/-! ## Runs -/

theorem Quiet.run (hc : c.Quiet) (l : List Access) : (c.run l).Quiet := by
  induction l generalizing c with
  | nil => exact hc
  | cons a l ih => exact ih (hc.access a)

theorem selected_access (c : CmosRam) (a : Access) :
    (c.access a).selected = a.selects?.getD c.selected := by
  cases a with
  | write port v =>
    simp only [access, writePort, Access.selects?]
    split
    next => rfl
    next =>
      split
      next => exact c.selected_writeSelected v
      next => rfl
  | read port =>
    simp only [access, readPort, Access.selects?]
    split
    next =>
      dsimp only
      split <;> rfl
    next => rfl

theorem selected_run (c : CmosRam) (l : List Access) :
    (c.run l).selected = (l.filterMap Access.selects?).getLastD c.selected :=
  register_foldl selected_access c l

/-- A register holds what was stored in it last. -/
theorem register_run (hc : c.Quiet) (l : List Access) (r : Fin 128) :
    (c.run l).register r =
      ((written r c.selected l).filterMap (stored? r)).getLastD (c.register r) := by
  induction l generalizing c with
  | nil => rfl
  | cons a l ih =>
    refine (ih (hc.access a)).trans ?_
    cases a with
    | read port =>
      rw [access_read hc, written]
    | write port v =>
      simp only [access, writePort, written]
      split
      next => rfl
      next =>
        split
        next hdata =>
          rw [selected_writeSelected, register_writeSelected hc]
          split
          next hr =>
            rw [if_pos ⟨hdata, hr⟩, getLastD_filterMap_cons]
          next hr => rw [if_neg fun h => hr h.2]
        next hdata => rw [if_neg fun h => hdata h.1]

/-! ## The register file -/

theorem filterMap_stored?_statusA (l : List UInt8) :
    l.filterMap (stored? statusA) = l.map (· &&& 0x7F) :=
  congrFun (List.filterMap_eq_map : List.filterMap (some ∘ fun v : UInt8 => v &&& 0x7F) = _) l

theorem filterMap_stored?_of_readOnly (hr : r = statusC ∨ r = statusD) (l : List UInt8) :
    l.filterMap (stored? r) = [] := by
  refine List.filterMap_eq_nil_iff.2 fun v _ => ?_
  rcases hr with rfl | rfl <;> rfl

theorem filterMap_stored?_of_ne (hA : r ≠ statusA) (hC : r ≠ statusC) (hD : r ≠ statusD)
    (l : List UInt8) : l.filterMap (stored? r) = l := by
  have hstored : stored? r = some := by
    funext v
    rw [stored?, if_neg hA, if_neg (not_or.2 ⟨hC, hD⟩)]
  rw [hstored, List.filterMap_some]

/-- Bit 7 of a byte that has none of it. -/
theorem bit_seven_of_and {v : UInt8} (h : v &&& 0x80 = 0) : Byte.bit v 7 = false := by
  have hbit : Byte.bit (v &&& 0x80) 7 = Byte.bit v 7 := by
    rw [Byte.bit_and, show Byte.bit 0x80 7 = true by decide, Bool.and_true]
  rw [← hbit, h, Byte.bit_zero]

theorem toNat_extended (memory : Nat) :
    (UInt16.ofNat (extendedKilobytes memory)).toNat = min 65535 ((memory - 0x100000) / 1024) := by
  rw [UInt16.toNat_ofNat', extendedKilobytes, Nat.min_comm, Nat.mod_eq_of_lt]
  omega

/-- **The last write wins.** After any accesses to the ports of a CMOS memory that is new, every
register holds the last byte that was written to the data port while it was selected, or what it
held at first; but register A without bit 7, and registers C and D what they held at first. A read
of the data port gives the selected register, and other reads give ones and change nothing. At first
the two pairs of registers for the extended memory hold its kilobytes, as far as they fit. -/
theorem last_write_wins (memory : Nat) (l : List Access) :
    let c := (initial memory).run l
    (c.selected.val < 128 ∧ c.selected = (l.filterMap Access.selects?).getLastD 0) ∧
    (c.register statusC = 0 ∧ c.register statusD = 0x80 ∧ Byte.bit (c.register statusA) 7 = false) ∧
    (c.readPort dataPort).1 = c.register c.selected ∧
    (∀ r, r ≠ statusA → r ≠ statusC → r ≠ statusD →
      c.register r = (written r 0 l).getLastD (initialRegister memory r)) ∧
    c.register statusA = ((written statusA 0 l).map (· &&& 0x7F)).getLastD 0x26 ∧
    (∀ port, port ≠ dataPort → c.readPort port = (0xFF, c)) ∧
    let new := initial memory
    (Byte.word (new.register 0x17) (new.register 0x18)).toNat =
      min 65535 ((memory - 0x100000) / 1024) ∧
    (Byte.word (new.register 0x30) (new.register 0x31)).toNat =
      min 65535 ((memory - 0x100000) / 1024) := by
  intro c
  have hquiet : c.Quiet := (quiet_initial memory).run l
  have hregister (r : Fin 128) : c.register r =
      ((written r 0 l).filterMap (stored? r)).getLastD (initialRegister memory r) := by
    rw [register_run (quiet_initial memory), register_initial]
    rfl
  refine ⟨⟨c.selected.isLt, selected_run _ l⟩,
    ⟨hquiet.statusC, ?_, bit_seven_of_and hquiet.statusA⟩,
    ?_, fun r hA hC hD => ?_, ?_, fun port hport => ?_, ?_, ?_⟩
  · rw [hregister, filterMap_stored?_of_readOnly (.inr rfl)]
    rfl
  · rw [readPort, if_pos rfl]
  · rw [hregister, filterMap_stored?_of_ne hA hC hD]
  · rw [hregister, filterMap_stored?_statusA]
    rfl
  · rw [readPort, if_neg hport]
  · rw [register_initial, register_initial, ← toNat_extended]
    exact congrArg UInt16.toNat (Byte.word_lowByte_highByte _)
  · rw [register_initial, register_initial, ← toNat_extended]
    exact congrArg UInt16.toNat (Byte.word_lowByte_highByte _)

/-- A shutdown byte that is written with bit 7 set in the index byte, then a byte for register A, in
a machine of 32 megabytes. -/
theorem last_write_wins_for_shutdown_byte :
    let c := (initial 0x2000000).run [.write indexPort 0x8F, .write dataPort 0x05, .read indexPort,
      .write indexPort 0x0A, .write dataPort 0xFF, .write indexPort 0x0F]
    (c.readPort dataPort).1 = 0x05 ∧ c.register statusA = 0x7F ∧ c.readPort 0x72 = (0xFF, c) := by
  intro c
  obtain ⟨⟨-, hselected⟩, -, hread, hplain, hA, hother, -⟩ := last_write_wins 0x2000000
    [.write indexPort 0x8F, .write dataPort 0x05, .read indexPort,
      .write indexPort 0x0A, .write dataPort 0xFF, .write indexPort 0x0F]
  refine ⟨?_, hA, hother 0x72 (by decide)⟩
  calc (c.readPort dataPort).1
      = c.register c.selected := hread
    _ = c.register 0x0F := congrArg c.register hselected
    _ = 0x05 := hplain 0x0F (by decide) (by decide) (by decide)

end RealModeMonitor.CmosRam
