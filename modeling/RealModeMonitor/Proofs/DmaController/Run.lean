import RealModeMonitor.Proofs.DmaController.Ports

/-!
# Runs of the DMA controllers

The guest uses the pair through its ports, and from outside a channel is used by its number. `Op`
has the uses as data.

What an operation makes of a channel depends on that channel alone (`channel_perform`), so a run is
seen channel by channel (`channel_run`): all that can happen to a channel is in `Op.change`.
-/

namespace RealModeMonitor

open DmaChip

/-! ## Words -/

def DmaProgram.word (p : DmaProgram) : WordRegister → UInt16
  | .address => p.address
  | .length => p.length

namespace DmaChannel

def word (x : DmaChannel) : WordRegister → FlipFlopWord
  | .address => x.address
  | .length => x.length

def setWord (x : DmaChannel) (r : WordRegister) (w : FlipFlopWord) : DmaChannel :=
  match r with
  | .address => { x with address := w }
  | .length => { x with length := w }

theorem word_setWord (x : DmaChannel) (r s : WordRegister) (w : FlipFlopWord) :
    (x.setWord r w).word s = if r = s then w else x.word s := by
  cases r <;> cases s <;> rfl

theorem word_program (x : DmaChannel) (r : WordRegister) : x.program.word r = (x.word r).value := by
  cases r <;> rfl

end DmaChannel

/-! ## One chip -/

namespace DmaChip

theorem channel_modify (x : DmaChip) (f : DmaChannel → DmaChannel) (i j : Fin 4) :
    (x.modify i f).channel j = if i = j then f (x.channel j) else x.channel j := by
  simp only [channel, modify, Fin.getElem_fin, Vector.getElem_set, Fin.val_inj]
  split
  next h => rw [h]
  next => rfl

theorem channel_modifyAll (x : DmaChip) (f : Fin 4 → DmaChannel → DmaChannel) (j : Fin 4) :
    (x.modifyAll f).channel j = f j (x.channel j) := by
  simp [channel, modifyAll]

theorem writeWord_eq (x : DmaChip) (i : Fin 4) (r : WordRegister) (b : UInt8) :
    x.writeWord i r b = x.modify i fun y => y.setWord r ((y.word r).write b) := by
  cases r <;> rfl

theorem readWord_eq (x : DmaChip) (i : Fin 4) (r : WordRegister) :
    x.readWord i r =
      (((x.channel i).word r).read.1, x.modify i fun y => y.setWord r (y.word r).read.2) := by
  cases r <;> rfl

/-- What a byte for a control register makes of channel `i`. -/
def ControlRegister.change (r : ControlRegister) (b : UInt8) (i : Fin 4) (x : DmaChannel) :
    DmaChannel :=
  match r with
  | .command => x
  | .request => if chosen b = i then { x with requested := Byte.bit b 2 } else x
  | .singleMask => if chosen b = i then { x with masked := Byte.bit b 2 } else x
  | .mode => if chosen b = i then { x with mode := b } else x
  | .clearFlipFlops => x.rewind
  | .masterClear => { x.rewind with masked := true, requested := false }
  | .clearMask => { x with masked := false }
  | .allMask => { x with masked := Byte.bit b i }

theorem channel_writeControl (x : DmaChip) (r : ControlRegister) (b : UInt8) (i : Fin 4) :
    (x.writeControl r b).2.channel i = r.change b i (x.channel i) := by
  cases r with
  | command => rfl
  | request | singleMask | mode => exact x.channel_modify _ _ i
  | clearFlipFlops | clearMask | allMask => exact x.channel_modifyAll _ i
  | masterClear =>
    calc (x.writeControl .masterClear b).2.channel i
        = (x.clearFlipFlops.modifyAll fun _ y =>
            { y with masked := true, requested := false }).channel i := rfl
      _ = ControlRegister.change .masterClear b i (x.channel i) := by
        rw [channel_modifyAll, clearFlipFlops, channel_modifyAll]
        rfl

end DmaChip

/-! ## Operations -/

namespace DmaController

/-- A channel of one of the chips. -/
def channel (d : DmaController) (c : Fin 2) (i : Fin 4) : DmaChannel :=
  (d.chips.get c).channel i

theorem channel_modifyChip (d : DmaController) (f : DmaChip → DmaChip) (c e : Fin 2) (i : Fin 4) :
    (d.modifyChip c f).channel e i =
      if c = e then (f (d.chips.get e)).channel i else d.channel e i := by
  split
  next h =>
    subst h
    exact congrArg (DmaChip.channel · i) (Vector.getElem_set_self c.isLt)
  next h =>
    exact congrArg (DmaChip.channel · i)
      (Vector.getElem_set_ne c.isLt e.isLt fun hval => h (Fin.ext hval))

theorem program_number (d : DmaController) (c : Fin 2) (i : Fin 4) :
    d.program (number c i) = .ok (d.channel c i).program := by
  simp only [program, channelOf?_eq_some_iff.2 rfl]
  rfl

/-- A use of the controllers. -/
inductive Op where
  | write (port : UInt16) (value : UInt8)
  | read (port : UInt16)
  /-- A look at what a channel is programmed to do. -/
  | program (n : UInt8)
  | setProgram (n : UInt8) (p : DmaProgram)

inductive Answer where
  | done (r : Except DeviceError Unit)
  | byte (b : UInt8)
  | program (r : Except DeviceError DmaProgram)

def perform (d : DmaController) : Op → Answer × DmaController
  | .write port value => let (r, d) := d.writePort port value; (.done r, d)
  | .read port => let (b, d) := d.readPort port; (.byte b, d)
  | .program n => (.program (d.program n), d)
  | .setProgram n p =>
    match d.setProgram n p with
    | .ok d => (.done (.ok ()), d)
    | .error e => (.done (.error e), d)

def run (d : DmaController) (ops : List Op) : DmaController :=
  ops.foldl (fun d op => (d.perform op).2) d

theorem run_cons (d : DmaController) (op : Op) (ops : List Op) :
    d.run (op :: ops) = (d.perform op).2.run ops := rfl

theorem run_append (d : DmaController) (ops ops' : List Op) :
    d.run (ops ++ ops') = (d.run ops).run ops' :=
  List.foldl_append

/-- What an operation makes of a channel. -/
def Op.change (c : Fin 2) (i : Fin 4) (x : DmaChannel) : Op → DmaChannel
  | .write port b =>
    match Target.ofPort? port with
    | some (.word e j r) => if e = c ∧ j = i then x.setWord r ((x.word r).write b) else x
    | some (.control e r) => if e = c then r.change b i x else x
    | some (.page e j) => if e = c ∧ j = i then { x with page := b } else x
    | some (.scratch _) | none => x
  | .read port =>
    match Target.ofPort? port with
    | some (.word e j r) => if e = c ∧ j = i then x.setWord r (x.word r).read.2 else x
    | some (.control ..) | some (.page ..) | some (.scratch _) | none => x
  | .program _ => x
  | .setProgram n p => if n = number c i then x.setProgram p else x

/-- One channel of one chip is changed. -/
theorem channel_modifyChip_modify (d : DmaController) (f : DmaChannel → DmaChannel) (c e : Fin 2)
    (i j : Fin 4) :
    (d.modifyChip e fun x => x.modify j f).channel c i =
      if e = c ∧ j = i then f (d.channel c i) else d.channel c i := by
  rw [channel_modifyChip]
  by_cases he : e = c
  · rw [if_pos he, channel_modify]
    simp only [he, true_and]
    rfl
  · simp only [he, if_false, false_and]

theorem channel_perform (d : DmaController) (op : Op) (c : Fin 2) (i : Fin 4) :
    (d.perform op).2.channel c i = op.change c i (d.channel c i) := by
  cases op with
  | write port b =>
    simp only [perform, writePort, Op.change]
    rcases Target.ofPort? port with _ | ⟨e, j, r⟩ | ⟨e, r⟩ | ⟨e, j⟩ | k
    · rfl
    · simp only [writeWord_eq]
      exact d.channel_modifyChip_modify _ c e i j
    · refine (d.channel_modifyChip _ e c i).trans ?_
      dsimp only
      split
      next h => subst h; exact channel_writeControl _ r b i
      next => rfl
    · exact d.channel_modifyChip_modify _ c e i j
    · rfl
  | read port =>
    simp only [perform, readPort, Op.change]
    rcases Target.ofPort? port with _ | ⟨e, j, r⟩ | ⟨e, r⟩ | ⟨e, j⟩ | k
    · rfl
    · simp only [readWord_eq]
      exact d.channel_modifyChip_modify _ c e i j
    · rfl
    · rfl
    · rfl
  | program n => rfl
  | setProgram n p =>
    simp only [perform, setProgram, Op.change, ← channelOf?_eq_some_iff]
    rcases channelOf? n with _ | ⟨e, j⟩
    · rfl
    · refine (d.channel_modifyChip_modify _ c e i j).trans ?_
      simp

theorem channel_run (d : DmaController) (ops : List Op) (c : Fin 2) (i : Fin 4) :
    (d.run ops).channel c i = ops.foldl (Op.change c i) (d.channel c i) :=
  (List.foldl_hom (fun d => channel d c i) fun d op => (d.channel_perform op c i).symm).symm

end DmaController
end RealModeMonitor
