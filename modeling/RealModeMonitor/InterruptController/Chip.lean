import RealModeMonitor.Byte
import RealModeMonitor.Device.Access

/-!
# One interrupt controller chip

A chip of the 8259A kind has eight pins and three registers with one bit per pin:

* `irr`, pins with a latched request;
* `isr`, pins **in service**: delivered and not yet ended;
* `imr`, pins the guest has masked.

Pin 0 has the highest priority. A pin is **ready** when it is requested, unmasked, and of higher
priority than every pin in service. `Chip.readyPins` has the ready pins of all eight at once, and
`Chip.ready?` takes the lowest.

**Initialisation.** A command byte with bit 4 set (ICW1) starts a sequence in which the chip
expects the vector base (ICW2), the wiring of the second chip unless the first byte said there is
none (ICW3), and the mode if the first byte announced it (ICW4). Both ports take these bytes.

**Operation.** Otherwise a command byte ends an interrupt or changes priorities (OCW2), or chooses
the register to read next (OCW3), and a data byte sets the mask. Every end-of-interrupt command
retires the pin of highest priority in service. Features the chip lacks are reported; what the
byte does besides is done.
-/

namespace RealModeMonitor

inductive ChipState where
  /-- Operational; a command read gives requests. -/
  | normal
  | waitIcw2
  | waitIcw3
  | waitIcw4
  /-- The next command read gives the pins in service. -/
  | readIsr
  /-- The next command read gives requests. -/
  | readIrr
  deriving DecidableEq

namespace ChipState

def name : ChipState → String
  | normal => "normal"
  | waitIcw2 => "wait-icw2"
  | waitIcw3 => "wait-icw3"
  | waitIcw4 => "wait-icw4"
  | readIsr => "read-isr"
  | readIrr => "read-irr"

/-- Whether an initialisation sequence is unfinished. -/
def isInitializing : ChipState → Bool
  | waitIcw2 | waitIcw3 | waitIcw4 => true
  | normal | readIsr | readIrr => false

end ChipState

/-- What a chip has to say about a byte written to it. -/
inductive ChipRemark where
  | complaint (e : DeviceError)
  /-- An end of interrupt named `level`, and the pin retired was another. -/
  | eoiForLowerPriority (level retired : Fin 8)
  deriving DecidableEq

structure Chip where
  irr : UInt8 := 0
  isr : UInt8 := 0
  imr : UInt8 := 0
  /-- First vector, a multiple of 8. -/
  base : UInt8
  icw1 : UInt8 := 0x11
  icw3 : UInt8
  icw4 : UInt8 := 0x01
  state : ChipState := .normal
  deriving DecidableEq

namespace Chip

/-! ## Modes -/

/-- No second chip: the sequence has no ICW3. -/
def single (c : Chip) : Bool := Byte.bit c.icw1 1

/-- The sequence has an ICW4. -/
def wantsIcw4 (c : Chip) : Bool := Byte.bit c.icw1 0

/-- Delivered pins are not put in service. -/
def autoEoi (c : Chip) : Bool := Byte.bit c.icw4 1

/-! ## Priority -/

def requested (c : Chip) (pin : Fin 8) : Bool := Byte.bit c.irr pin

def inService (c : Chip) (pin : Fin 8) : Bool := Byte.bit c.isr pin

def masked (c : Chip) (pin : Fin 8) : Bool := Byte.bit c.imr pin

/-- The pins of higher priority than every pin in service; with none in service, all of them. -/
def urgentPins (c : Chip) : UInt8 := Byte.lowest c.isr - 1

/-- The ready pins, where those of `extra` count as requested too. -/
def readyPins (c : Chip) (extra : UInt8) : UInt8 := (c.irr ||| extra) &&& ~~~c.imr &&& c.urgentPins

/-- The ready pin of highest priority. -/
def ready? (c : Chip) (extra : UInt8) : Option (Fin 8) := Byte.first? (c.readyPins extra)

/-- The pin in service of highest priority. -/
def top? (c : Chip) : Option (Fin 8) := Byte.first? c.isr

/-- The vector of a pin. -/
def vector (c : Chip) (pin : Fin 8) : UInt8 := c.base ||| UInt8.ofNat pin

/-! ## Requests and service -/

def latch (c : Chip) (pin : Fin 8) : Chip := { c with irr := Byte.setBit c.irr pin }

def unlatch (c : Chip) (pin : Fin 8) : Chip := { c with irr := Byte.clearBit c.irr pin }

/-- Put a pin in service, unless interrupts end by themselves. -/
def serve (c : Chip) (pin : Fin 8) : Chip :=
  if c.autoEoi then c else { c with isr := Byte.setBit c.isr pin }

/-- Retire the pin in service of highest priority. -/
def endOfInterrupt (c : Chip) : Chip :=
  match c.top? with
  | none => c
  | some pin => { c with isr := Byte.clearBit c.isr pin }

/-! ## Writing -/

private def lacks (feature : String) (value : UInt8) : Option ChipRemark :=
  some (.complaint (.unsupported .pic feature value))

/-- ICW1: forget all requests and start the sequence. -/
def beginSequence (c : Chip) (value : UInt8) : Chip × Option ChipRemark :=
  ({ c with icw1 := value, irr := 0, isr := 0, imr := 0, state := .waitIcw2 },
    if Byte.bit value 3 then lacks "level triggered mode" value else none)

/-- The state after the wiring is known. -/
def afterWiring (c : Chip) : ChipState := if c.wantsIcw4 then .waitIcw4 else .normal

/-- The next byte of an unfinished sequence. -/
def continueSequence (c : Chip) (value : UInt8) : Chip × Option ChipRemark :=
  match c.state with
  | .waitIcw2 =>
    ({ c with
        base := value &&& 0xF8
        icw4 := if c.wantsIcw4 then c.icw4 else 0
        state := if c.single then c.afterWiring else .waitIcw3 }, none)
  | .waitIcw3 => ({ c with icw3 := value, state := c.afterWiring }, none)
  | .waitIcw4 =>
    ({ c with icw4 := value, state := .normal },
      if Byte.bit value 0 then none else lacks "8080 mode" value)
  | .normal | .readIsr | .readIrr => (c, none)

/-- OCW2: the three high bits choose the command, the three low bits name a level. -/
def controlService (c : Chip) (value : UInt8) : Chip × Option ChipRemark :=
  match (value >>> 5).toNat with
  | 1 => (c.endOfInterrupt, none)
  | 2 => (c, none)
  | 3 =>
    let level : Fin 8 := Fin.ofNat 8 value.toNat
    (c.endOfInterrupt, c.top?.bind fun retired =>
      if retired = level then none else some (.eoiForLowerPriority level retired))
  | 5 | 7 => (c.endOfInterrupt, lacks "priority rotation" value)
  | 6 => (c, lacks "set priority" value)
  | _ => (c, lacks "rotate in automatic EOI mode" value)

/-- OCW3: choose the register to read next. -/
def controlRead (c : Chip) (value : UInt8) : Chip × Option ChipRemark :=
  let state := match (value &&& 3).toNat with
    | 2 => .readIrr
    | 3 => .readIsr
    | _ => c.state
  ({ c with state },
    if Byte.bit value 2 then lacks "poll command" value
    else if Byte.bit value 6 then lacks "special mask mode" value
    else none)

def writeCommand (c : Chip) (value : UInt8) : Chip × Option ChipRemark :=
  if Byte.bit value 4 then c.beginSequence value
  else if c.state.isInitializing then c.continueSequence value
  else if Byte.bit value 3 then c.controlRead value
  else c.controlService value

def writeData (c : Chip) (value : UInt8) : Chip × Option ChipRemark :=
  if c.state.isInitializing then c.continueSequence value else ({ c with imr := value }, none)

/-! ## Reading -/

/-- Requests, or once after OCW3 asked for them the pins in service. -/
def readCommand (c : Chip) : UInt8 × Chip :=
  match c.state with
  | .readIsr => (c.isr, { c with state := .normal })
  | .readIrr => (c.irr, { c with state := .normal })
  | .normal | .waitIcw2 | .waitIcw3 | .waitIcw4 => (c.irr, c)

def readData (c : Chip) : UInt8 := c.imr

end Chip
end RealModeMonitor
