import RealModeMonitor.DmaController.Chip

/-!
# The pair of DMA controllers

Channels 0 to 3 belong to the first chip, channels 4 to 7 to the second. `Target.ofPort?` is the
port map:

* ports 0x00 to 0x0F reach the first chip, one port for each register;
* even ports 0xC0 to 0xDE reach the second in the same order, and odd ports there reach nothing;
* ports 0x80 to 0x8F hold the page registers, scattered, and eight bytes that belong to no
  channel and only keep what is written.
-/

namespace RealModeMonitor

structure DmaController where
  chips : Vector DmaChip 2 := Vector.replicate 2 {}
  scratch : Vector UInt8 16 := Vector.replicate 16 0
  deriving DecidableEq

namespace DmaController

def initial : DmaController := {}

/-- The chip and the channel of it with this number. -/
def channelOf? (n : UInt8) : Option (Fin 2 × Fin 4) :=
  if h : n.toNat < 8 then some (⟨n.toNat / 4, by omega⟩, ⟨n.toNat % 4, by omega⟩) else none

/-- What a port reaches. -/
inductive Target where
  | word (chip : Fin 2) (channel : Fin 4) (register : DmaChip.WordRegister)
  | control (chip : Fin 2) (register : DmaChip.ControlRegister)
  | page (chip : Fin 2) (channel : Fin 4)
  | scratch (index : Fin 16)
  deriving DecidableEq

namespace Target

/-- The register at place `index` of a chip's block: two words for each channel, then the control
registers. -/
def ofIndex (chip : Fin 2) (index : Fin 16) : Target :=
  if h : index.val < 8 then
    word chip ⟨index.val / 2, by omega⟩ (if index.val % 2 = 0 then .address else .length)
  else control chip (.ofIndex ⟨index.val - 8, by omega⟩)

/-- The number of the channel whose page register stands at place `index` of the page block. -/
def pageOwner? (index : Fin 16) : Option UInt8 :=
  match index.val with
  | 0x7 => some 0
  | 0x3 => some 1
  | 0x1 => some 2
  | 0x2 => some 3
  | 0xF => some 4
  | 0xB => some 5
  | 0x9 => some 6
  | 0xA => some 7
  | _ => none

def ofPageIndex (index : Fin 16) : Target :=
  match (pageOwner? index).bind channelOf? with
  | some (chip, channel) => page chip channel
  | none => scratch index

def ofPort? (port : UInt16) : Option Target :=
  let n := port.toNat
  if h : n < 0x10 then some (ofIndex 0 ⟨n, h⟩)
  else if h : 0x80 ≤ n ∧ n < 0x90 then some (ofPageIndex ⟨n - 0x80, by omega⟩)
  else if h : 0xC0 ≤ n ∧ n < 0xE0 ∧ n % 2 = 0 then some (ofIndex 1 ⟨(n - 0xC0) / 2, by omega⟩)
  else none

end Target

def modifyChip (d : DmaController) (i : Fin 2) (f : DmaChip → DmaChip) : DmaController :=
  { d with chips := d.chips.set i (f d.chips[i]) }

/-! ## Channels from outside the guest -/

def program (d : DmaController) (n : UInt8) : Except DeviceError DmaProgram :=
  match channelOf? n with
  | some (chip, channel) => .ok (d.chips[chip].channel channel).program
  | none => .error (.channelOutOfRange n)

/-- Replace what a channel is programmed to do. -/
def setProgram (d : DmaController) (n : UInt8) (p : DmaProgram) :
    Except DeviceError DmaController :=
  match channelOf? n with
  | some (chip, channel) =>
    .ok (d.modifyChip chip fun c => c.modify channel fun x => x.setProgram p)
  | none => .error (.channelOutOfRange n)

/-! ## Ports -/

def writePort (d : DmaController) (port : UInt16) (b : UInt8) :
    Except DeviceError Unit × DmaController :=
  match Target.ofPort? port with
  | none => (.ok (), d)
  | some (.word chip channel r) => (.ok (), d.modifyChip chip fun c => c.writeWord channel r b)
  | some (.control chip r) =>
    let (result, c) := d.chips[chip].writeControl r b
    (result, d.modifyChip chip fun _ => c)
  | some (.page chip channel) =>
    (.ok (), d.modifyChip chip fun c => c.modify channel fun x => { x with page := b })
  | some (.scratch i) => (.ok (), { d with scratch := d.scratch.set i b })

def readPort (d : DmaController) (port : UInt16) : UInt8 × DmaController :=
  match Target.ofPort? port with
  | none => (0xFF, d)
  | some (.word chip channel r) =>
    let (b, c) := d.chips[chip].readWord channel r
    (b, d.modifyChip chip fun _ => c)
  | some (.control chip r) => (d.chips[chip].readControl r, d)
  | some (.page chip channel) => ((d.chips[chip].channel channel).page, d)
  | some (.scratch i) => (d.scratch[i], d)

end DmaController
end RealModeMonitor
