import RealModeMonitor.Proofs.InterruptController.Run

/-!
# Arbitration

The chips compute with whole registers: the ready pins are a mask, and the one of highest priority
is its lowest bit. Here the same is said line by line. A line is `Eligible` if it is requested,
unmasked and urgent (of higher priority than every pin in service) on its chip, and for a line of
the slave so is the cascade pin on the master, request aside. `Precedes` orders the lines: the
slave's lines rank at the cascade pin, ahead of that pin itself.

**Selection.** `ready?` gives the eligible line that precedes all other eligible ones
(`ready?_eq_some_iff`), and nothing only if no line is eligible (`ready?_eq_none_iff`).

**Vectors.** A chip's base is a multiple of 8 in every reachable state (`Reachable.aligned`), so
the vector of a pin is the base plus the pin's number.

Main result: `deliver_exact`, which says all that delivering does in a reachable state.
-/

namespace RealModeMonitor

/-! ## One chip -/

namespace Chip

/-- No pin in service has the priority of `pin` or a higher one. -/
def Urgent (c : Chip) (pin : Fin 8) : Prop := ∀ other, c.inService other = true → pin < other

/-- Requested, or among `extra`, and unmasked and urgent. -/
def Ready (c : Chip) (extra : UInt8) (pin : Fin 8) : Prop :=
  (c.requested pin = true ∨ Byte.bit extra pin = true) ∧ c.masked pin = false ∧ c.Urgent pin

theorem bit_urgentPins (c : Chip) (pin : Fin 8) :
    Byte.bit c.urgentPins pin = true ↔ c.Urgent pin := by
  rw [urgentPins, Byte.bit_lowest_sub_one, decide_eq_true_eq]
  constructor
  · intro h other hserved
    apply Fin.not_le.1
    intro hle
    rw [inService, h other hle] at hserved
    exact Bool.false_ne_true hserved
  · intro h other hle
    exact Bool.eq_false_iff.2 fun hserved => Fin.not_lt.2 hle (h other hserved)

theorem bit_readyPins (c : Chip) (extra : UInt8) (pin : Fin 8) :
    Byte.bit (c.readyPins extra) pin = true ↔ c.Ready extra pin := by
  rw [readyPins, Byte.bit_and, Byte.bit_and, Byte.bit_or, Byte.bit_not, Bool.and_eq_true,
    bit_urgentPins, Bool.and_eq_true, Bool.or_eq_true, Bool.not_eq_true', and_assoc]
  rfl

theorem ready?_eq_some_iff {c : Chip} {extra : UInt8} {pin : Fin 8} :
    c.ready? extra = some pin ↔
      c.Ready extra pin ∧ ∀ other, c.Ready extra other → pin ≤ other := by
  rw [ready?, Byte.first?_eq_some_iff, bit_readyPins]
  refine and_congr_right fun _ => ⟨?_, ?_⟩
  · intro h other hready
    apply Fin.not_lt.1
    intro hlt
    rw [← bit_readyPins, h other hlt] at hready
    exact Bool.false_ne_true hready
  · intro h other hlt
    exact Bool.eq_false_iff.2 fun hbit =>
      Fin.not_lt.2 (h other ((c.bit_readyPins extra other).1 hbit)) hlt

theorem ready?_eq_none_iff {c : Chip} {extra : UInt8} :
    c.ready? extra = none ↔ ∀ pin, ¬c.Ready extra pin := by
  rw [ready?, Byte.first?_eq_none_iff]
  exact forall_congr' fun pin => by rw [← bit_readyPins, Bool.not_eq_true]

theorem ready_zero_iff {c : Chip} {pin : Fin 8} :
    c.Ready 0 pin ↔ c.requested pin = true ∧ c.masked pin = false ∧ c.Urgent pin := by
  simp [Ready]

theorem ready_single_iff {c : Chip} {cascade pin : Fin 8} :
    c.Ready (Byte.single cascade) pin ↔
      (c.requested pin = true ∨ cascade = pin) ∧ c.masked pin = false ∧ c.Urgent pin := by
  simp [Ready, Byte.bit_single, Fin.val_inj]

end Chip

namespace InterruptController

variable {c : InterruptController} {line : Line}

/-! ## The pair -/

/-- The lines that may be delivered. -/
def Eligible (c : InterruptController) : Line → Prop
  | .master pin =>
    c.master.requested pin = true ∧ c.master.masked pin = false ∧ c.master.Urgent pin
  | .slave pin =>
    ∃ cascade, c.cascade? = some cascade ∧
      c.slave.requested pin = true ∧ c.slave.masked pin = false ∧ c.slave.Urgent pin ∧
      c.master.masked cascade = false ∧ c.master.Urgent cascade

/-- The rank of a line, the smallest first. A line of the slave ranks at the cascade pin, ahead
of that pin itself. -/
def rank (c : InterruptController) : Line → Nat × Nat
  | .master pin => (pin, 8)
  | .slave pin => ((c.cascade?.map Fin.val).getD 8, pin)

/-- Whether a line is delivered rather than another: ranks compare by their first numbers, then
by their second ones. -/
def Precedes (c : InterruptController) (line other : Line) : Prop :=
  (c.rank line).1 < (c.rank other).1 ∨
    (c.rank line).1 = (c.rank other).1 ∧ (c.rank line).2 ≤ (c.rank other).2

/-- The eligible line that precedes all eligible ones. -/
def Selected (c : InterruptController) (line : Line) : Prop :=
  c.Eligible line ∧ ∀ other, c.Eligible other → c.Precedes line other

/-- No two lines have the same rank, so at most one is selected. -/
theorem Selected.unique {other : Line} (h : c.Selected line) (h' : c.Selected other) :
    line = other := by
  have h₁ := h.2 other h'.1
  have h₂ := h'.2 line h.1
  unfold Precedes at h₁ h₂
  cases line <;> cases other <;> simp only [rank] at h₁ h₂ <;> congr 1 <;> omega

/-- A ready slave counts as a request on the cascade pin. -/
theorem ready?_of_slaveReady {pin cascade : Fin 8} (hslave : c.slaveReady? = some pin)
    (hcascade : c.cascade? = some cascade) :
    c.ready? = (c.master.ready? (Byte.single cascade)).map fun m =>
      if m = cascade then .slave pin else .master m := by
  simp only [ready?, hslave, hcascade]

theorem ready?_of_slaveReady_none (hslave : c.slaveReady? = none) :
    c.ready? = (c.master.ready? 0).map .master := by
  simp only [ready?, hslave]

theorem slaveReady?_eq_some_iff {pin : Fin 8} :
    c.slaveReady? = some pin ↔
      ∃ cascade, c.cascade? = some cascade ∧ c.slave.ready? 0 = some pin := by
  simp [slaveReady?, Option.bind_eq_some_iff]

/-- With no line of the slave ready, only the master's pins are eligible. -/
theorem not_eligible_slave (hslave : c.slaveReady? = none) (pin : Fin 8) :
    ¬c.Eligible (.slave pin) := by
  rintro ⟨cascade, hcascade, hrequested, hmasked, hurgent, -, -⟩
  rw [slaveReady?, hcascade, Option.bind_some] at hslave
  exact Chip.ready?_eq_none_iff.1 hslave pin (Chip.ready_zero_iff.2 ⟨hrequested, hmasked, hurgent⟩)

theorem ready?_eq_none_iff : c.ready? = none ↔ ∀ line, ¬c.Eligible line := by
  cases hslave : c.slaveReady? with
  | none =>
    rw [ready?_of_slaveReady_none hslave, Option.map_eq_none_iff, Chip.ready?_eq_none_iff]
    constructor
    · intro h line
      cases line with
      | master pin => exact fun he => h pin (Chip.ready_zero_iff.2 he)
      | slave pin => exact not_eligible_slave hslave pin
    · exact fun h pin hready => h (.master pin) (Chip.ready_zero_iff.1 hready)
  | some pin =>
    obtain ⟨cascade, hcascade, hready⟩ := slaveReady?_eq_some_iff.1 hslave
    have hslave' := Chip.ready_zero_iff.1 (Chip.ready?_eq_some_iff.1 hready).1
    rw [ready?_of_slaveReady hslave hcascade, Option.map_eq_none_iff, Chip.ready?_eq_none_iff]
    constructor
    · intro h line
      cases line with
      | master other =>
        exact fun he => h other (Chip.ready_single_iff.2 ⟨.inl he.1, he.2.1, he.2.2⟩)
      | slave other =>
        rintro ⟨cascade', hcascade', -, -, -, hmasked, hurgent⟩
        obtain rfl := Option.some.inj (hcascade.symm.trans hcascade')
        exact h cascade (Chip.ready_single_iff.2 ⟨.inr rfl, hmasked, hurgent⟩)
    · intro h other hother
      obtain ⟨hrequested | rfl, hmasked, hurgent⟩ := Chip.ready_single_iff.1 hother
      · exact h (.master other) ⟨hrequested, hmasked, hurgent⟩
      · exact h (.slave pin)
          ⟨cascade, hcascade, hslave'.1, hslave'.2.1, hslave'.2.2, hmasked, hurgent⟩

/-- The master's ready pin, while no line of the slave is ready. -/
theorem selected_master {pin : Fin 8} (hslave : c.slaveReady? = none)
    (hpin : c.master.ready? 0 = some pin) : c.Selected (.master pin) := by
  obtain ⟨hready, hleast⟩ := Chip.ready?_eq_some_iff.1 hpin
  refine ⟨Chip.ready_zero_iff.1 hready, ?_⟩
  intro other hother
  cases other with
  | master other =>
    have := hleast other (Chip.ready_zero_iff.2 hother)
    simp only [Precedes, rank]
    omega
  | slave other => exact absurd hother (not_eligible_slave hslave other)

/-- With line `pin` of the slave ready, the master's ready pin `m` counts as that line if it is the
cascade pin. -/
theorem selected_cascaded {pin cascade m : Fin 8} (hslave : c.slaveReady? = some pin)
    (hcascade : c.cascade? = some cascade)
    (hm : c.master.ready? (Byte.single cascade) = some m) :
    c.Selected (if m = cascade then .slave pin else .master m) := by
  obtain ⟨-, -, hready⟩ := slaveReady?_eq_some_iff.1 hslave
  obtain ⟨hslaveReady, hslaveLeast⟩ := Chip.ready?_eq_some_iff.1 hready
  obtain ⟨hslaveRequested, hslaveMasked, hslaveUrgent⟩ := Chip.ready_zero_iff.1 hslaveReady
  obtain ⟨hmaster, hleast⟩ := Chip.ready?_eq_some_iff.1 hm
  obtain ⟨hrequested, hmasked, hurgent⟩ := Chip.ready_single_iff.1 hmaster
  -- What is eligible is ready on the master, where the slave's lines stand on the cascade pin.
  have hmasterLeast : ∀ other, c.Eligible (.master other) → m ≤ other := fun other he =>
    hleast other (Chip.ready_single_iff.2 ⟨.inl he.1, he.2.1, he.2.2⟩)
  have hcascadeLeast : ∀ other, c.Eligible (.slave other) → m ≤ cascade ∧ pin ≤ other := by
    rintro other ⟨cascade', hcascade', hreq, hmask, hurg, hmasked', hurgent'⟩
    obtain rfl := Option.some.inj (hcascade.symm.trans hcascade')
    exact ⟨hleast cascade (Chip.ready_single_iff.2 ⟨.inr rfl, hmasked', hurgent'⟩),
      hslaveLeast other (Chip.ready_zero_iff.2 ⟨hreq, hmask, hurg⟩)⟩
  by_cases hcase : m = cascade
  · subst hcase
    rw [if_pos rfl]
    refine ⟨⟨m, hcascade, hslaveRequested, hslaveMasked, hslaveUrgent, hmasked, hurgent⟩, ?_⟩
    intro other hother
    cases other with
    | master other =>
      have := hmasterLeast other hother
      simp only [Precedes, rank, hcascade, Option.map_some, Option.getD_some]
      omega
    | slave other => exact .inr ⟨rfl, (hcascadeLeast other hother).2⟩
  · rw [if_neg hcase]
    refine ⟨⟨hrequested.resolve_right fun h => hcase h.symm, hmasked, hurgent⟩, ?_⟩
    intro other hother
    cases other with
    | master other =>
      have := hmasterLeast other hother
      simp only [Precedes, rank]
      omega
    | slave other =>
      have := hcascadeLeast other hother
      simp only [Precedes, rank, hcascade, Option.map_some, Option.getD_some]
      omega

theorem selected_of_ready? (h : c.ready? = some line) : c.Selected line := by
  cases hslave : c.slaveReady? with
  | none =>
    rw [ready?_of_slaveReady_none hslave, Option.map_eq_some_iff] at h
    obtain ⟨pin, hpin, rfl⟩ := h
    exact selected_master hslave hpin
  | some pin =>
    obtain ⟨cascade, hcascade, -⟩ := slaveReady?_eq_some_iff.1 hslave
    rw [ready?_of_slaveReady hslave hcascade, Option.map_eq_some_iff] at h
    obtain ⟨m, hm, rfl⟩ := h
    exact selected_cascaded hslave hcascade hm

/-- **Selection.** The ready line is the one that precedes all other eligible ones. -/
theorem ready?_eq_some_iff : c.ready? = some line ↔ c.Selected line := by
  refine ⟨selected_of_ready?, ?_⟩
  intro h
  cases hready : c.ready? with
  | none => exact absurd h.1 (ready?_eq_none_iff.1 hready line)
  | some other => rw [(selected_of_ready? hready).unique h]

-- The slave's line goes ahead of the pin that it is wired to.
example : ((initial.latch (.master 2)).latch (.slave 1)).ready? = some (.slave 1) := by decide

theorem offered?_eq_some_iff {vif : Bool} :
    c.offered? vif = some line ↔
      vif = true ∧ c.master.state.isInitializing = false ∧ c.Selected line := by
  simp [offered?, ready?_eq_some_iff, and_assoc]

end InterruptController

/-! ## Acknowledgement -/

namespace Chip

variable (c : Chip) (pin other : Fin 8)

/-- The chip with neither requests nor services: its mask and how it was programmed. -/
def settings : Chip := { c with irr := 0, isr := 0 }

theorem settings_unlatch : (c.unlatch pin).settings = c.settings := rfl

theorem settings_serve : (c.serve pin).settings = c.settings := by
  unfold serve
  split <;> rfl

theorem requested_unlatch :
    (c.unlatch pin).requested other = (c.requested other && decide (other ≠ pin)) := by
  simp [requested, unlatch, Fin.val_inj, eq_comm]

theorem requested_serve : (c.serve pin).requested other = c.requested other := by
  unfold serve
  split <;> rfl

theorem inService_unlatch : (c.unlatch pin).inService other = c.inService other := rfl

theorem autoEoi_unlatch : (c.unlatch pin).autoEoi = c.autoEoi := rfl

theorem inService_serve :
    (c.serve pin).inService other = (c.inService other || decide (other = pin) && !c.autoEoi) := by
  unfold serve
  split
  · simp [*]
  · simp [inService, Fin.val_inj, eq_comm, *]

end Chip

namespace InterruptController

variable {c : InterruptController} {line : Line}

/-- The lines put in service when `line` is taken: with a line of the slave, the cascade pin. -/
def takenWith (c : InterruptController) : Line → List Line
  | .master pin => [.master pin]
  | .slave pin => .slave pin :: (c.cascade?.map Line.master).toList

/-- `c'` is `c` after a guest took `line`. -/
structure Acknowledged (c : InterruptController) (line : Line) (c' : InterruptController) :
    Prop where
  delivered : c'.delivered = c.delivered + 1
  /-- The request of `line` is gone, and no other. -/
  isPending : ∀ other, c'.isPending other = (c.isPending other && decide (other ≠ line))
  /-- A chip that ends interrupts by itself puts nothing in service. -/
  isInService : ∀ other, c'.isInService other =
    (c.isInService other || decide (other ∈ c.takenWith line) && !(c.owner other).autoEoi)
  settings : ∀ side, (c'.chip side).settings = (c.chip side).settings

theorem isPending_master (c : InterruptController) (pin : Fin 8) :
    c.isPending (.master pin) = c.master.requested pin := rfl

theorem isPending_slave (c : InterruptController) (pin : Fin 8) :
    c.isPending (.slave pin) = c.slave.requested pin := rfl

theorem isInService_master (c : InterruptController) (pin : Fin 8) :
    c.isInService (.master pin) = c.master.inService pin := rfl

theorem isInService_slave (c : InterruptController) (pin : Fin 8) :
    c.isInService (.slave pin) = c.slave.inService pin := rfl

theorem acknowledge_master (c : InterruptController) (pin : Fin 8) :
    c.acknowledge (.master pin) =
      ⟨(c.master.unlatch pin).serve pin, c.slave, c.delivered + 1⟩ := rfl

theorem acknowledge_slave (c : InterruptController) (pin : Fin 8) :
    c.acknowledge (.slave pin) =
      ⟨(c.cascade?.map c.master.serve).getD c.master, (c.slave.unlatch pin).serve pin,
        c.delivered + 1⟩ := by
  have hsame : cascade? ⟨c.master, c.slave, c.delivered + 1⟩ = c.cascade? := rfl
  cases hcascade : c.cascade? <;> simp [acknowledge, hsame, hcascade]

theorem acknowledged (c : InterruptController) (line : Line) :
    c.Acknowledged line (c.acknowledge line) := by
  cases line with
  | master pin =>
    rw [acknowledge_master]
    refine ⟨rfl, ?_, ?_, ?_⟩
    · intro other
      cases other <;>
        simp [isPending_master, isPending_slave, Chip.requested_serve, Chip.requested_unlatch]
    · intro other
      cases other <;>
        simp [isInService_master, isInService_slave, Chip.inService_serve, takenWith,
          Chip.inService_unlatch, Chip.autoEoi_unlatch, owner, Line.side, chip]
    · intro side
      cases side with
      | master => rw [chip, Chip.settings_serve, Chip.settings_unlatch, chip]
      | slave => rfl
  | slave pin =>
    rw [acknowledge_slave]
    refine ⟨rfl, ?_, ?_, ?_⟩
    · intro other
      cases other <;> cases c.cascade? <;>
        simp [isPending_master, isPending_slave, Chip.requested_serve, Chip.requested_unlatch]
    · intro other
      cases other <;> cases hcascade : c.cascade? <;>
        simp [isInService_master, isInService_slave, Chip.inService_serve, takenWith, hcascade,
          Chip.inService_unlatch, Chip.autoEoi_unlatch, owner, Line.side, chip]
    · intro side
      cases side with
      | master => cases c.cascade? <;> simp [chip, Chip.settings_serve]
      | slave => rw [chip, Chip.settings_serve, Chip.settings_unlatch, chip]

end InterruptController

/-! ## Vectors -/

namespace Chip

/-- A base that leaves room for the number of a pin. -/
def Aligned (c : Chip) : Prop := c.base.toNat % 8 = 0

theorem toNat_and_F8 (value : UInt8) : (value &&& 0xF8).toNat % 8 = 0 := by
  have h : ∀ v : BitVec 8, (v &&& 0xF8).toNat % 8 = 0 := by decide +kernel
  exact h value.toBitVec

theorem Aligned.continueSequence {c : Chip} (h : c.Aligned) (value : UInt8) :
    (c.continueSequence value).1.Aligned := by
  unfold Chip.continueSequence
  cases c.state with
  | waitIcw2 => exact toNat_and_F8 value
  | normal | waitIcw3 | waitIcw4 | readIsr | readIrr => exact h

theorem base_endOfInterrupt (c : Chip) : c.endOfInterrupt.base = c.base := by
  unfold endOfInterrupt
  cases c.top? <;> rfl

theorem base_controlService (c : Chip) (value : UInt8) :
    (c.controlService value).1.base = c.base := by
  unfold controlService
  split <;> first | rfl | exact c.base_endOfInterrupt

theorem Aligned.write {c : Chip} (h : c.Aligned) (command : Bool) (value : UInt8) :
    (c.write command value).Aligned := by
  unfold Chip.write
  cases command with
  | true =>
    simp only [if_true, writeCommand]
    split
    · exact h
    · split
      · exact h.continueSequence value
      · split
        · exact h
        · rw [Aligned, base_controlService]
          exact h
  | false =>
    simp only [Bool.false_eq_true, if_false, writeData]
    split
    · exact h.continueSequence value
    · exact h

theorem Aligned.readCommand {c : Chip} (h : c.Aligned) : c.readCommand.2.Aligned := by
  unfold Chip.readCommand
  cases c.state <;> exact h

theorem toNat_vector {c : Chip} (h : c.Aligned) (pin : Fin 8) :
    (c.vector pin).toNat = c.base.toNat + pin := by
  have hpin : (UInt8.ofNat pin).toNat = pin := by
    rw [UInt8.toNat_ofNat']
    omega
  have hbase : 2 ^ 3 * (c.base.toNat / 8) = c.base.toNat := by
    unfold Aligned at h
    omega
  rw [vector, UInt8.toNat_or, hpin, ← hbase, ← Nat.two_pow_add_eq_or_of_lt pin.isLt]

end Chip

namespace InterruptController

variable {c : InterruptController} {line : Line}

theorem aligned_setChip (h : ∀ side, (c.chip side).Aligned) {side : Line.Side} {chip : Chip}
    (hchip : chip.Aligned) (other : Line.Side) : ((c.setChip side chip).chip other).Aligned := by
  rw [chip_setChip]
  split
  · exact hchip
  · exact h other

theorem preserved_aligned : Preserved fun c => ∀ side, (c.chip side).Aligned where
  write c side command value h := aligned_setChip h ((h side).write command value)
  read c side h := aligned_setChip h (h side).readCommand
  latch c line _ h := aligned_setChip h (h line.side)
  acknowledge c line _ h side := by
    have hsettings := congrArg Chip.base ((c.acknowledged line).settings side)
    have hbase : ((c.acknowledge line).chip side).base = (c.chip side).base := hsettings
    rw [Chip.Aligned, hbase]
    exact h side

theorem Reachable.aligned (h : c.Reachable) : ∀ side, (c.chip side).Aligned :=
  h.induction preserved_aligned fun side => by cases side <;> rfl

/-- **Vectors.** The vectors of a chip are eight in a row from its base on. -/
theorem Reachable.toNat_vector (h : c.Reachable) (line : Line) :
    (c.vector line).toNat = (c.owner line).base.toNat + line.pin :=
  Chip.toNat_vector (h.aligned line.side) line.pin

/-! ## Delivery -/

/-- **Arbitration is exact.** A controller offers nothing while the guest has interrupts off or
the master is being initialised. Otherwise it offers the selected line with its vector, if any line
is eligible: a guest that takes it leaves the line acknowledged, one that cannot leaves the
controller as it was. -/
theorem deliver_exact (ops : List Op) (vm : VmId) (g : Guest) :
    let c := initial.run ops
    (g.vif = false ∨ c.master.state.isInitializing = true →
      c.deliver vm g = pure (.ok none, c, g)) ∧
    (g.vif = true ∧ c.master.state.isInitializing = false →
      (∀ line, ¬c.Eligible line) ∧ c.deliver vm g = pure (.ok none, c, g) ∨
      ∃ line, c.Selected line ∧ (c.vector line).toNat = (c.owner line).base.toNat + line.pin ∧
        ((∃ g' c', g.interrupt (c.vector line) = (.ok (), g') ∧ c.Acknowledged line c' ∧
            (c.deliver vm g).val = (.ok (some ⟨line, c.vector line⟩), c', g')) ∨
          ∃ e g', g.interrupt (c.vector line) = (.error e, g') ∧
            (c.deliver vm g).val = (.error e, c, g'))) := by
  intro c
  have hreach : c.Reachable := ⟨ops, rfl⟩
  have hidle : c.offered? g.vif = none → c.deliver vm g = pure (.ok none, c, g) := fun h => by
    rw [deliver, h]
  constructor
  · rintro (hvif | hstate) <;> apply hidle
    · rw [offered?, hvif, Bool.false_and]
      rfl
    · rw [offered?, hstate, Bool.not_true, Bool.and_false]
      rfl
  · rintro ⟨hvif, hstate⟩
    have hoffered : c.offered? g.vif = c.ready? := by
      rw [offered?, hvif, hstate, Bool.not_false, Bool.and_true, if_pos rfl]
    obtain ⟨hoffer, -⟩ | ⟨line, g', hoffer, hinterrupt, hval⟩ |
        ⟨line, e, g', hoffer, hinterrupt, hval⟩ := c.deliver_cases vm g
    · exact .inl ⟨ready?_eq_none_iff.1 (hoffered ▸ hoffer), hidle hoffer⟩
    · exact .inr ⟨line, ready?_eq_some_iff.1 (hoffered ▸ hoffer), hreach.toNat_vector line,
        .inl ⟨g', _, hinterrupt, c.acknowledged line, hval⟩⟩
    · exact .inr ⟨line, ready?_eq_some_iff.1 (hoffered ▸ hoffer), hreach.toNat_vector line,
        .inr ⟨e, g', hinterrupt, hval⟩⟩

end InterruptController
end RealModeMonitor
