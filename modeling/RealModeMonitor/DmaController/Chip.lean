import RealModeMonitor.Byte
import RealModeMonitor.Device.Access

/-!
# One DMA controller chip

A chip of the 8237A kind has four channels. The address and the length of a channel are words
behind a byte port: each has a **flip-flop** that says which byte the next access means and turns
over with every access. Clearing the flip-flops sends all of a chip's words back to their low
bytes and changes no value.

No transfer ever runs: guests program a channel and read it back, nothing more.
-/

namespace RealModeMonitor

/-- A word reached one byte at a time. -/
structure FlipFlopWord where
  value : UInt16 := 0
  /-- Whether the next access means the high byte. -/
  high : Bool := false
  deriving DecidableEq

namespace FlipFlopWord

def write (r : FlipFlopWord) (b : UInt8) : FlipFlopWord := ⟨Byte.merge r.value b r.high, !r.high⟩

def read (r : FlipFlopWord) : UInt8 × FlipFlopWord :=
  (Byte.select r.value r.high, ⟨r.value, !r.high⟩)

def rewind (r : FlipFlopWord) : FlipFlopWord := { r with high := false }

end FlipFlopWord

/-- What a channel is programmed to do. -/
structure DmaProgram where
  page : UInt8 := 0
  address : UInt16 := 0
  length : UInt16 := 0
  /-- The last mode byte, with the bits that chose the channel. -/
  mode : UInt8 := 0
  masked : Bool := true
  requested : Bool := false
  deriving DecidableEq

structure DmaChannel where
  address : FlipFlopWord := {}
  length : FlipFlopWord := {}
  page : UInt8 := 0
  mode : UInt8 := 0
  masked : Bool := true
  requested : Bool := false
  deriving DecidableEq

namespace DmaChannel

def program (c : DmaChannel) : DmaProgram :=
  ⟨c.page, c.address.value, c.length.value, c.mode, c.masked, c.requested⟩

/-- Replace what is programmed; the flip-flops stay as they are. -/
def setProgram (c : DmaChannel) (p : DmaProgram) : DmaChannel where
  address := { c.address with value := p.address }
  length := { c.length with value := p.length }
  page := p.page
  mode := p.mode
  masked := p.masked
  requested := p.requested

def rewind (c : DmaChannel) : DmaChannel :=
  { c with address := c.address.rewind, length := c.length.rewind }

end DmaChannel

structure DmaChip where
  channels : Vector DmaChannel 4 := Vector.replicate 4 {}
  command : UInt8 := 0
  deriving DecidableEq

namespace DmaChip

/-- The two words of a channel. -/
inductive WordRegister where
  | address
  | length
  deriving DecidableEq

/-- The control registers, in the order of their ports. -/
inductive ControlRegister where
  | command
  | request
  | singleMask
  | mode
  | clearFlipFlops
  | masterClear
  | clearMask
  | allMask
  deriving DecidableEq

def ControlRegister.ofIndex : Fin 8 → ControlRegister
  | 0 => command
  | 1 => request
  | 2 => singleMask
  | 3 => mode
  | 4 => clearFlipFlops
  | 5 => masterClear
  | 6 => clearMask
  | 7 => allMask

def channel (c : DmaChip) (i : Fin 4) : DmaChannel := c.channels[i]

def modify (c : DmaChip) (i : Fin 4) (f : DmaChannel → DmaChannel) : DmaChip :=
  { c with channels := c.channels.set i (f c.channels[i]) }

def modifyAll (c : DmaChip) (f : Fin 4 → DmaChannel → DmaChannel) : DmaChip :=
  { c with channels := Vector.ofFn fun i => f i c.channels[i] }

def clearFlipFlops (c : DmaChip) : DmaChip := c.modifyAll fun _ => DmaChannel.rewind

/-- A byte with bit `low + i` set for each channel `i` that `p` holds of. -/
def flags (c : DmaChip) (low : Nat) (p : DmaChannel → Bool) : UInt8 :=
  (List.finRange 4).foldl
    (fun (b : UInt8) (i : Fin 4) =>
      if p c.channels[i] then b ||| (1 <<< UInt8.ofNat (low + i)) else b) 0

/-! ## Words -/

def writeWord (c : DmaChip) (i : Fin 4) (r : WordRegister) (b : UInt8) : DmaChip :=
  c.modify i fun channel => match r with
    | .address => { channel with address := channel.address.write b }
    | .length => { channel with length := channel.length.write b }

def readWord (c : DmaChip) (i : Fin 4) : WordRegister → UInt8 × DmaChip
  | .address =>
    let (b, address) := c.channels[i].address.read
    (b, c.modify i fun channel => { channel with address })
  | .length =>
    let (b, length) := c.channels[i].length.read
    (b, c.modify i fun channel => { channel with length })

/-! ## Control registers -/

/-- The channel that the low two bits of a control byte choose. -/
def chosen (b : UInt8) : Fin 4 := Fin.ofNat 4 b.toNat

/-- Write a control register. Copying within memory is reported as missing. -/
def writeControl (c : DmaChip) (r : ControlRegister) (b : UInt8) :
    Except DeviceError Unit × DmaChip :=
  match r with
  | .command =>
    (if Byte.bit b 0 then .error (.unsupported .dma "memory-to-memory transfer" b) else .ok (),
      { c with command := b })
  | .request =>
    (.ok (), c.modify (chosen b) fun channel => { channel with requested := Byte.bit b 2 })
  | .singleMask =>
    (.ok (), c.modify (chosen b) fun channel => { channel with masked := Byte.bit b 2 })
  | .mode => (.ok (), c.modify (chosen b) fun channel => { channel with mode := b })
  | .clearFlipFlops => (.ok (), c.clearFlipFlops)
  | .masterClear =>
    (.ok (), { c.clearFlipFlops.modifyAll fun _ channel =>
      { channel with masked := true, requested := false } with command := 0 })
  | .clearMask => (.ok (), c.modifyAll fun _ channel => { channel with masked := false })
  | .allMask => (.ok (), c.modifyAll fun i channel => { channel with masked := Byte.bit b i })

/-- Requests in bits 4 to 7; masks in bits 0 to 3 under ones; a temporary register that is never
loaded; ones elsewhere. -/
def readControl (c : DmaChip) : ControlRegister → UInt8
  | .command => c.flags 4 DmaChannel.requested
  | .masterClear => 0
  | .allMask => 0xF0 ||| c.flags 0 DmaChannel.masked
  | .request | .singleMask | .mode | .clearFlipFlops | .clearMask => 0xFF

end DmaChip
end RealModeMonitor
