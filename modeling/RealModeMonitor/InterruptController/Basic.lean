import RealModeMonitor.InterruptController.Chip
import RealModeMonitor.Guest.Run

/-!
# The pair of interrupt controllers

The slave's request output is wired to one pin of the master, the **cascade** pin: the lowest set
bit of the master's ICW3, or none if the master runs alone. The slave's ready line counts as a
request on that pin, and ranks there, ahead of a request that the pin itself has latched.

**Raising.** A raised line is latched even while it is masked or the guest has interrupts off. It
is dropped only while the same line is in service.

**Delivery.** Whenever something may have changed, the ready line of highest priority is offered
to the guest. Nothing is offered while the guest's virtual interrupt flag is clear or the master
is being initialised. If the guest cannot take the interrupt, the request stays latched and
nothing is put in service.
-/

namespace RealModeMonitor

structure InterruptController where
  master : Chip
  slave : Chip
  /-- Interrupts that guests took from this controller. -/
  delivered : Nat := 0
  deriving DecidableEq

namespace InterruptController

/-- The pair as firmware leaves it: vectors from 0x08 and 0x70, slave on pin 2. -/
def initial : InterruptController where
  master := { base := 0x08, icw3 := 0x04 }
  slave := { base := 0x70, icw3 := 0x02 }

def masterCommand : UInt16 := 0x20

def masterData : UInt16 := 0x21

def slaveCommand : UInt16 := 0xA0

def slaveData : UInt16 := 0xA1

/-! ## Chips and lines -/

def chip (c : InterruptController) : Line.Side → Chip
  | .master => c.master
  | .slave => c.slave

def setChip (c : InterruptController) (side : Line.Side) (chip : Chip) : InterruptController :=
  match side with
  | .master => { c with master := chip }
  | .slave => { c with slave := chip }

theorem chip_setChip (c : InterruptController) (side other : Line.Side) (chip : Chip) :
    (c.setChip side chip).chip other = if side = other then chip else c.chip other := by
  cases side <;> cases other <;> rfl

@[simp] theorem delivered_setChip (c : InterruptController) (side : Line.Side) (chip : Chip) :
    (c.setChip side chip).delivered = c.delivered := by
  cases side <;> rfl

/-- The chip that a line belongs to. -/
def owner (c : InterruptController) (line : Line) : Chip := c.chip line.side

def isPending (c : InterruptController) (line : Line) : Bool := (c.owner line).requested line.pin

def isInService (c : InterruptController) (line : Line) : Bool := (c.owner line).inService line.pin

def vector (c : InterruptController) (line : Line) : UInt8 := (c.owner line).vector line.pin

/-- The master's pin that the slave is wired to. -/
def cascade? (c : InterruptController) : Option (Fin 8) :=
  if c.master.single then none else Byte.first? c.master.icw3

/-! ## Arbitration -/

/-- The slave's ready pin, if the slave is wired to the master. -/
def slaveReady? (c : InterruptController) : Option (Fin 8) :=
  c.cascade?.bind fun _ => c.slave.ready? 0

/-- The ready line of highest priority. -/
def ready? (c : InterruptController) : Option Line :=
  match c.slaveReady?, c.cascade? with
  | some pin, some cascade =>
    (c.master.ready? (Byte.single cascade)).map fun m =>
      if m = cascade then .slave pin else .master m
  | _, _ => (c.master.ready? 0).map .master

/-- The line that a guest whose virtual interrupt flag is `vif` is offered. -/
def offered? (c : InterruptController) (vif : Bool) : Option Line :=
  if vif && !c.master.state.isInitializing then c.ready? else none

/-- The controller after a guest took `line`. -/
def acknowledge (c : InterruptController) (line : Line) : InterruptController :=
  let c := { c with delivered := c.delivered + 1 }
  match line with
  | .master pin => { c with master := (c.master.unlatch pin).serve pin }
  | .slave pin =>
    { c with
      slave := (c.slave.unlatch pin).serve pin
      master := match c.cascade? with
        | some cascade => c.master.serve cascade
        | none => c.master }

/-! ## Delivery -/

/-- Offer the ready line of highest priority to the guest. -/
def deliver (c : InterruptController) (vm : VmId) (g : Guest) :
    Traced (Except InjectError (Option Delivery) × InterruptController × Guest) :=
  match c.offered? g.vif with
  | none => pure (.ok none, c, g)
  | some line => do
    let vector := c.vector line
    match ← g.inject vector with
    | (.error e, g) =>
      Traced.tell (.deliveryFailed vm line.number e)
      return (.error e, c, g)
    | (.ok (), g) =>
      Traced.tell (.irqDelivered vm line.number vector)
      return (.ok (some ⟨line, vector⟩), c.acknowledge line, g)

/-- The controller with a request latched. -/
def latch (c : InterruptController) (line : Line) : InterruptController :=
  c.setChip line.side ((c.owner line).latch line.pin)

/-- Latch a request, unless the line is in service. -/
def latch? (c : InterruptController) (line : Line) : Option InterruptController :=
  if c.isInService line then none else some (c.latch line)

def outcomeOf : Option Delivery → IrqOutcome
  | some d => .delivered d
  | none => .pending

/-- Raise a line and offer the ready line of highest priority. -/
def raise (c : InterruptController) (vm : VmId) (number : UInt8) (g : Guest) :
    Traced (Except InjectError IrqOutcome × InterruptController × Guest) :=
  match Line.ofNumber? number with
  | none => do
    Traced.tell (.deviceComplaint vm (.lineOutOfRange number))
    return (.ok .dropped, c, g)
  | some line =>
    match c.latch? line with
    | none => do
      Traced.tell (.irqInService vm number)
      return (.ok .dropped, c, g)
    | some c => do
      let (r, c, g) ← c.deliver vm g
      return (r.map outcomeOf, c, g)

/-! ## Ports -/

/-- The chip behind a port, and whether it is the chip's command port. -/
def decode? (port : UInt16) : Option (Line.Side × Bool) :=
  if port = masterCommand then some (.master, true)
  else if port = masterData then some (.master, false)
  else if port = slaveCommand then some (.slave, true)
  else if port = slaveData then some (.slave, false)
  else none

def writePort (c : InterruptController) (vm : VmId) (port : UInt16) (value : UInt8) :
    Traced InterruptController :=
  match decode? port with
  | none => pure c
  | some (side, command) => do
    let before := c.chip side
    let (after, remark) := if command then before.writeCommand value else before.writeData value
    match remark with
    | some (.complaint e) => Traced.tell (.deviceComplaint vm e)
    | some (.eoiForLowerPriority level retired) =>
      Traced.tell (.eoiForLowerPriority level retired)
    | none => pure ()
    if before.state.isInitializing && after.state = .normal then
      Traced.tell (.controllerReady vm port after.base after.icw4)
    return c.setChip side after

def readPort (c : InterruptController) (port : UInt16) : UInt8 × InterruptController :=
  match decode? port with
  | none => (0xFF, c)
  | some (side, true) =>
    let (value, chip) := (c.chip side).readCommand
    (value, c.setChip side chip)
  | some (side, false) => ((c.chip side).readData, c)

/-- A guest's write: an end of interrupt or a new mask may have made a line ready. -/
def writeAndDeliver (c : InterruptController) (vm : VmId) (port : UInt16) (value : UInt8)
    (g : Guest) : Traced (InterruptController × Guest) := do
  let c ← c.writePort vm port value
  let (r, c, g) ← c.deliver vm g
  if let .error e := r then
    Traced.tell (.pendingNotDelivered vm e)
  return (c, g)

end InterruptController
end RealModeMonitor
