import RealModeMonitor.Proofs.DmaController.Run

/-!
# Words written in two bytes

A word of a channel is behind a port of one byte, with a flip-flop of its own. Other operations may
come between the two bytes of a word: `Op.Leaves c i r` says of an operation that it neither uses
the port of the word, nor clears the flip-flops of the chip, nor programs the channel from outside.
Such operations change neither the word nor its flip-flop (`word_run_of_leaves`).

Main result: `bytes_make_word`.
-/

namespace RealModeMonitor

open DmaChip

variable {c : Fin 2} {i : Fin 4} {r : WordRegister}

/-! ## One word -/

namespace FlipFlopWord

variable {a b : UInt8}

theorem write_write_rewind (w : FlipFlopWord) (a b : UInt8) :
    (w.rewind.write a).write b = ⟨Byte.word a b, false⟩ := by
  simp [write, rewind, Byte.merge]

theorem read_low : read ⟨Byte.word a b, false⟩ = (a, ⟨Byte.word a b, true⟩) := by
  simp [read, Byte.select]

theorem read_high : read ⟨Byte.word a b, true⟩ = (b, ⟨Byte.word a b, false⟩) := by
  simp [read, Byte.select]

end FlipFlopWord

namespace DmaChip.ControlRegister

variable {s : ControlRegister}

theorem word_change_of_clear (hs : s = .clearFlipFlops ∨ s = .masterClear) (b : UInt8)
    (x : DmaChannel) : (s.change b i x).word r = (x.word r).rewind := by
  rcases hs with rfl | rfl <;> cases r <;> rfl

theorem word_change_of_ne (hclear : s ≠ .clearFlipFlops) (hmaster : s ≠ .masterClear) (b : UInt8)
    (x : DmaChannel) : (s.change b i x).word r = x.word r := by
  cases s with
  | clearFlipFlops => exact absurd rfl hclear
  | masterClear => exact absurd rfl hmaster
  | command => rfl
  | clearMask | allMask => cases r <;> rfl
  | request | singleMask | mode =>
    simp only [change]
    split <;> cases r <;> rfl

end DmaChip.ControlRegister

namespace DmaController

variable {d : DmaController} {op : Op} {ops : List Op}

/-! ## Operations on other registers -/

/-- The operation is not about the word `r` of channel `i` of chip `c`. -/
def Op.Leaves (c : Fin 2) (i : Fin 4) (r : WordRegister) : Op → Prop
  | .write port _ =>
    port ≠ (Target.word c i r).port ∧ port ≠ (Target.control c .clearFlipFlops).port ∧
      port ≠ (Target.control c .masterClear).port
  | .read port => port ≠ (Target.word c i r).port
  | .program _ => True
  | .setProgram n _ => n ≠ number c i

instance : DecidablePred (Op.Leaves c i r)
  | .write .. => inferInstanceAs (Decidable (_ ∧ _ ∧ _))
  | .read _ => inferInstanceAs (Decidable (_ ≠ _))
  | .program _ => inferInstanceAs (Decidable True)
  | .setProgram .. => inferInstanceAs (Decidable (_ ≠ _))

/-- An access to a word through another port than that of `r` leaves `r`. -/
theorem word_of_port_ne {e : Fin 2} {j : Fin 4} {s : WordRegister} {port : UInt16}
    (ht : Target.ofPort? port = some (.word e j s)) (hport : port ≠ (Target.word c i r).port)
    (x : DmaChannel) (w : FlipFlopWord) :
    (if e = c ∧ j = i then x.setWord s w else x).word r = x.word r := by
  split
  next hchannel =>
    obtain ⟨rfl, rfl⟩ := hchannel
    refine (x.word_setWord s r w).trans (if_neg ?_)
    rintro rfl
    exact hport (Target.ofPort?_word_iff.1 ht)
  next => rfl

theorem word_change_of_leaves (h : op.Leaves c i r) (x : DmaChannel) :
    (op.change c i x).word r = x.word r := by
  cases op with
  | write port b =>
    obtain ⟨hword, hclear, hmaster⟩ := h
    simp only [Op.change]
    rcases ht : Target.ofPort? port with _ | ⟨e, j, s⟩ | ⟨e, s⟩ | ⟨e, j⟩ | k
    · rfl
    · exact word_of_port_ne ht hword x _
    · dsimp only
      split
      next he =>
        subst he
        apply ControlRegister.word_change_of_ne
        · rintro rfl
          exact hclear (Target.ofPort?_control_iff.1 ht)
        · rintro rfl
          exact hmaster (Target.ofPort?_control_iff.1 ht)
      next => rfl
    · dsimp only
      split <;> cases r <;> rfl
    · rfl
  | read port =>
    simp only [Op.change]
    rcases ht : Target.ofPort? port with _ | ⟨e, j, s⟩ | ⟨e, s⟩ | ⟨e, j⟩ | k
    · rfl
    · exact word_of_port_ne ht h x _
    · rfl
    · rfl
    · rfl
  | program n => rfl
  | setProgram n p => exact congrArg (DmaChannel.word · r) (if_neg h)

theorem word_run_of_leaves (h : ∀ op ∈ ops, op.Leaves c i r) (d : DmaController) :
    ((d.run ops).channel c i).word r = (d.channel c i).word r := by
  rw [channel_run]
  generalize d.channel c i = x
  induction ops generalizing x with
  | nil => rfl
  | cons op ops ih =>
    rw [List.foldl_cons, ih fun op hop => h op (List.mem_cons_of_mem _ hop)]
    exact word_change_of_leaves (h op List.mem_cons_self) x

/-! ## Operations on a word -/

theorem word_clear {s : ControlRegister} (hs : s = .clearFlipFlops ∨ s = .masterClear)
    (d : DmaController) (b : UInt8) :
    ((d.perform (.write (Target.control c s).port b)).2.channel c i).word r =
      ((d.channel c i).word r).rewind := by
  simp only [channel_perform, Op.change, Target.ofPort?_control_iff.2 rfl, if_true,
    ControlRegister.word_change_of_clear hs]

theorem word_write (d : DmaController) (b : UInt8) :
    ((d.perform (.write (Target.word c i r).port b)).2.channel c i).word r =
      ((d.channel c i).word r).write b := by
  simp only [channel_perform, Op.change, Target.ofPort?_word_iff.2 rfl, and_self, if_true,
    DmaChannel.word_setWord]

theorem perform_read_word (d : DmaController) :
    (d.perform (.read (Target.word c i r).port)).1 = .byte ((d.channel c i).word r).read.1 := by
  simp only [perform, readPort, Target.ofPort?_word_iff.2 rfl, readWord_eq]
  rfl

theorem word_read (d : DmaController) :
    ((d.perform (.read (Target.word c i r).port)).2.channel c i).word r =
      ((d.channel c i).word r).read.2 := by
  simp only [channel_perform, Op.change, Target.ofPort?_word_iff.2 rfl, and_self, if_true,
    DmaChannel.word_setWord]

/-- **Two bytes make a word.** After the flip-flops of the chip are cleared, two bytes that are
written to the port of a word are its bytes, low byte first, whatever is done to other registers
before, between and after them; and the next two reads of the port give them back. -/
theorem bytes_make_word (d : DmaController) (c : Fin 2) (i : Fin 4) (r : WordRegister)
    {clear : ControlRegister} (hclear : clear = .clearFlipFlops ∨ clear = .masterClear)
    (x a b : UInt8) {before between after amid : List Op} (hbefore : ∀ op ∈ before, op.Leaves c i r)
    (hbetween : ∀ op ∈ between, op.Leaves c i r) (hafter : ∀ op ∈ after, op.Leaves c i r)
    (hamid : ∀ op ∈ amid, op.Leaves c i r) :
    let port := (Target.word c i r).port
    let d' := d.run (.write (Target.control c clear).port x :: before ++
      .write port a :: between ++ .write port b :: after)
    let read := d'.perform (.read port)
    (∃ p, d'.program (number c i) = .ok p ∧ (p.word r).toNat = a.toNat + 256 * b.toNat) ∧
      read.1 = .byte a ∧ ((read.2.run amid).perform (.read port)).1 = .byte b := by
  intro port d' read
  -- Seen from the word, the run is the clearing and the two bytes.
  have hword : (d'.channel c i).word r = ⟨Byte.word a b, false⟩ := by
    simp only [d', port, List.cons_append, run_append, run_cons, word_run_of_leaves hafter,
      word_write, word_run_of_leaves hbetween, word_run_of_leaves hbefore, word_clear hclear,
      FlipFlopWord.write_write_rewind]
  have hread : (read.2.channel c i).word r = ⟨Byte.word a b, true⟩ := by
    rw [word_read, hword, FlipFlopWord.read_low]
  refine ⟨⟨_, program_number d' c i, ?_⟩, ?_, ?_⟩
  · rw [DmaChannel.word_program, hword, Byte.toNat_word]
  · rw [perform_read_word, hword, FlipFlopWord.read_low]
  · rw [perform_read_word, word_run_of_leaves hamid, hread, FlipFlopWord.read_high]

/-- The address of channel 5, among uses of its length and its page, of the first chip's master
clear, and of programs for the next channel. -/
theorem bytes_make_word_among_others :
    let before := [Op.write 0xC6 0x77, .write 0x8B 0x09, .setProgram 6 {}]
    let between := [Op.write 0x0D 0, .read 0xC6]
    let amid := [Op.program 5, .read 0xC8]
    let d := initial.run (.write 0xD8 0 :: before ++ .write 0xC4 0x34 :: between ++
      .write 0xC4 0x12 :: [.write 0xD6 0x49])
    let read := d.perform (.read 0xC4)
    (∃ p, d.program 5 = .ok p ∧ p.address.toNat = 0x34 + 256 * 0x12) ∧
      read.1 = .byte 0x34 ∧ ((read.2.run amid).perform (.read 0xC4)).1 = .byte 0x12 :=
  bytes_make_word initial 1 1 .address (.inl rfl) 0 0x34 0x12 (by decide) (by decide) (by decide)
    (by decide)

end DmaController
end RealModeMonitor
