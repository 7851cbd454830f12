import RealModeMonitor.Proofs.DmaController.Parts
import RealModeMonitor.Proofs.LastWrite

/-!
# DMA ports do not interfere

Operations on different chips can be done in either order, and so can operations on different
registers of one chip.

A channel has two flags, and several control registers set them: four set a mask and two a request.
A program from outside sets both. `Op.sets?` says what an operation sets a flag to, and a flag is
what it was set to last (`flag_run`). The guest reads a flag of the four channels of a chip in one
byte (`read_flag`).

Main result: `ports_do_not_interfere`.
-/

namespace RealModeMonitor

open DmaChip

variable {c : Fin 2} {i : Fin 4}

/-! ## Flags -/

inductive DmaFlag where
  | mask
  | request

namespace DmaFlag

/-- The control register in which the guest reads the flag. -/
def register : DmaFlag → ControlRegister
  | mask => .allMask
  | request => .command

/-- The port of that register. -/
def port : DmaFlag → Fin 2 → UInt16
  | mask, 0 => 0x0F
  | mask, 1 => 0xDE
  | request, 0 => 0x08
  | request, 1 => 0xD0

/-- The place of the flag of channel 0 in that byte. -/
def low : DmaFlag → Nat
  | mask => 0
  | request => 4

end DmaFlag

def DmaProgram.flag (p : DmaProgram) : DmaFlag → Bool
  | .mask => p.masked
  | .request => p.requested

def DmaChannel.flag (x : DmaChannel) : DmaFlag → Bool
  | .mask => x.masked
  | .request => x.requested

theorem DmaChannel.flag_setWord (x : DmaChannel) (r : WordRegister) (w : FlipFlopWord)
    (f : DmaFlag) : (x.setWord r w).flag f = x.flag f := by
  cases r <;> cases f <;> rfl

theorem DmaChannel.flag_program (x : DmaChannel) (f : DmaFlag) : x.program.flag f = x.flag f := by
  cases f <;> rfl

/-! ## Reading the flags -/

namespace DmaChip

theorem bit_foldl_flags (p : Fin 4 → Bool) {low : Nat} (hlow : low ≤ 4) (l : List (Fin 4))
    (b : UInt8) (i : Fin 4) :
    Byte.bit (l.foldl (fun b j => if p j then b ||| (1 <<< UInt8.ofNat (low + j)) else b) b)
      (low + i) = true ↔ Byte.bit b (low + i) = true ∨ i ∈ l ∧ p i = true := by
  induction l generalizing b with
  | nil => simp
  | cons j l ih =>
    have hset : b ||| (1 <<< UInt8.ofNat (low + j)) = Byte.setBit b ⟨low + j, by omega⟩ := rfl
    rw [List.foldl_cons, ih, hset]
    by_cases hi : i = j
    · subst hi
      split
      next hp => simp [hp]
      next hp => simp [hp]
    · have hne : low + j.val ≠ low + i.val := fun h => hi (Fin.ext (by omega))
      simp only [List.mem_cons, hi, false_or]
      split
      next hp => rw [Byte.bit_setBit, decide_eq_false hne, Bool.or_false]
      next hp => rfl

theorem bit_flags (x : DmaChip) {low : Nat} (hlow : low ≤ 4) (p : DmaChannel → Bool) (i : Fin 4) :
    Byte.bit (x.flags low p) (low + i) = p (x.channel i) := by
  rw [Bool.eq_iff_iff]
  refine (bit_foldl_flags (fun j => p x.channels[j]) hlow _ 0 i).trans ?_
  simp only [Byte.bit_zero, Bool.false_eq_true, false_or, List.mem_finRange, true_and]
  rfl

theorem bit_readControl_flag (x : DmaChip) (f : DmaFlag) (i : Fin 4) :
    Byte.bit (x.readControl f.register) (f.low + i) = (x.channel i).flag f := by
  cases f with
  | mask =>
    have hones : ∀ i : Fin 4, Byte.bit 0xF0 (0 + i) = false := by decide
    refine (Byte.bit_or _ _ _).trans ?_
    rw [DmaFlag.low, hones, Bool.false_or]
    exact x.bit_flags (Nat.zero_le 4) _ i
  | request => exact x.bit_flags (Nat.le_refl 4) _ i

/-! ## Setting the flags -/

/-- What a byte for a control register sets a flag of channel `i` to. -/
def ControlRegister.sets? (r : ControlRegister) (b : UInt8) (i : Fin 4) : DmaFlag → Option Bool
  | .mask =>
    match r with
    | .singleMask => if chosen b = i then some (Byte.bit b 2) else none
    | .masterClear => some true
    | .clearMask => some false
    | .allMask => some (Byte.bit b i)
    | .command | .request | .mode | .clearFlipFlops => none
  | .request =>
    match r with
    | .request => if chosen b = i then some (Byte.bit b 2) else none
    | .masterClear => some false
    | .command | .singleMask | .mode | .clearFlipFlops | .clearMask | .allMask => none

theorem ControlRegister.flag_change (r : ControlRegister) (b : UInt8) (i : Fin 4) (x : DmaChannel)
    (f : DmaFlag) : (r.change b i x).flag f = (r.sets? b i f).getD (x.flag f) := by
  cases r with
  | request | singleMask | mode =>
    cases f
    all_goals
      simp only [change, sets?]
      split <;> rfl
  | command | clearFlipFlops | masterClear | clearMask | allMask => cases f <;> rfl

end DmaChip

namespace DmaController

variable {f : DmaFlag}

/-- What an operation sets a flag of a channel to. -/
def Op.sets? (c : Fin 2) (i : Fin 4) (f : DmaFlag) : Op → Option Bool
  | .write port b =>
    match Target.ofPort? port with
    | some (.control e r) => if e = c then r.sets? b i f else none
    | some (.word ..) | some (.page ..) | some (.scratch _) | none => none
  | .setProgram n p => if n = number c i then some (p.flag f) else none
  | .read _ | .program _ => none

theorem flag_change (op : Op) (x : DmaChannel) :
    (op.change c i x).flag f = (op.sets? c i f).getD (x.flag f) := by
  have hword (p : Prop) [Decidable p] (r : WordRegister) (w : FlipFlopWord) :
      (if p then x.setWord r w else x).flag f = x.flag f := by
    split
    next => exact x.flag_setWord r w f
    next => rfl
  cases op with
  | write port b =>
    simp only [Op.change, Op.sets?]
    rcases Target.ofPort? port with _ | ⟨e, j, r⟩ | ⟨e, r⟩ | ⟨e, j⟩ | k
    · rfl
    · exact hword _ r _
    · dsimp only
      split
      next => exact r.flag_change b i x f
      next => rfl
    · dsimp only
      split <;> cases f <;> rfl
    · rfl
  | read port =>
    simp only [Op.change, Op.sets?]
    rcases Target.ofPort? port with _ | ⟨e, j, r⟩ | ⟨e, r⟩ | ⟨e, j⟩ | k
    · rfl
    · exact hword _ r _
    · rfl
    · rfl
    · rfl
  | program n => rfl
  | setProgram n p =>
    simp only [Op.change, Op.sets?]
    split <;> cases f <;> rfl

/-- A flag is what it was set to last. -/
theorem flag_run (d : DmaController) (ops : List Op) (c : Fin 2) (i : Fin 4) (f : DmaFlag) :
    ((d.run ops).channel c i).flag f =
      (ops.filterMap (Op.sets? c i f)).getLastD ((d.channel c i).flag f) := by
  rw [channel_run]
  exact register_foldl (g := fun x => DmaChannel.flag x f) (fun x op => flag_change op x) _ ops

theorem ofPort?_flag (f : DmaFlag) (c : Fin 2) :
    Target.ofPort? (f.port c) = some (.control c f.register) := by
  cases f <;> revert c <;> decide +kernel

theorem read_flag (d : DmaController) (f : DmaFlag) (c : Fin 2) :
    d.perform (.read (f.port c)) = (.byte ((d.chips.get c).readControl f.register), d) := by
  simp only [perform, readPort, ofPort?_flag]
  rfl

/-- **DMA ports do not interfere.** Operations that address different chips can be done in either
order, and operations on different registers, control registers apart. Nothing happens at ports that
lead nowhere. After any operations the guest reads the flags that the channels have, and each is
what it was set to last. -/
theorem ports_do_not_interfere (d : DmaController) :
    (∀ (a b : Op) (c e : Fin 2), a.chip? = some c → b.chip? = some e → c ≠ e → d.Commute a b) ∧
    (∀ (a b : Op) (t u : Target), a.register? = some t → b.register? = some u → t ≠ u →
      d.Commute a b) ∧
    (∀ (port : UInt16) (v : UInt8), 0x10 ≤ port.toNat → ¬(0x80 ≤ port.toNat ∧ port.toNat < 0x90) →
      ¬(0xC0 ≤ port.toNat ∧ port.toNat < 0xE0 ∧ port.toNat % 2 = 0) →
      d.perform (.write port v) = (.done (.ok ()), d)) ∧
    ∀ (ops : List Op) (c : Fin 2) (i : Fin 4) (f : DmaFlag), ∃ b p,
      (d.run ops).perform (.read (f.port c)) = (.byte b, d.run ops) ∧
      (d.run ops).program (number c i) = .ok p ∧
      Byte.bit b (f.low + i) = p.flag f ∧
      p.flag f = (ops.filterMap (Op.sets? c i f)).getLastD ((d.channel c i).flag f) := by
  refine ⟨fun a b c e ha hb h => commute_of_chip_ne ha hb h d,
    fun a b t u ha hb h => commute_of_register_ne ha hb h d, fun port v hlow hpage hhigh => ?_,
    fun ops c i f => ⟨_, _, read_flag _ f c, program_number _ c i, ?_, ?_⟩⟩
  · simp only [perform, writePort, Target.ofPort?_eq_none_iff.2 ⟨hlow, hpage, hhigh⟩]
  · rw [DmaChannel.flag_program]
    exact bit_readControl_flag _ f i
  · rw [DmaChannel.flag_program, flag_run]

/-- A master clear of the first chip and a program for channel 6; the address and the length of
channel 1; an odd port of the second block; and the mask of channel 1 after two masks and a program
for it. -/
theorem ports_do_not_interfere_initially :
    initial.Commute (.write 0x0D 0) (.setProgram 6 {}) ∧
    initial.Commute (.write 0x02 0x34) (.read 0x03) ∧
    initial.perform (.write 0xC1 0x07) = (.done (.ok ()), initial) ∧
    let d := initial.run [.write 0x0F 0xF0, .setProgram 1 {}, .write 0x0A 0x02]
    ∃ b p, d.perform (.read 0x0F) = (.byte b, d) ∧ d.program 1 = .ok p ∧
      Byte.bit b 1 = p.masked ∧ p.masked = true := by
  obtain ⟨hchips, hregisters, hnothing, hflags⟩ := ports_do_not_interfere initial
  refine ⟨hchips _ _ 0 1 rfl rfl (by decide),
    hregisters _ _ (.word 0 1 .address) (.word 0 1 .length) rfl rfl (by decide),
    hnothing 0xC1 0x07 (by decide) (by decide) (by decide), ?_⟩
  exact hflags [.write 0x0F 0xF0, .setProgram 1 {}, .write 0x0A 0x02] 0 1 .mask

end DmaController
end RealModeMonitor
