import RealModeMonitor.Byte
import RealModeMonitor.Clock

/-!
# One channel of the interval timer

A channel counts down from its **reload** value, where 0 stands for 65536. The counter is not
stepped: when a reload is complete the channel remembers the tick (`start`) and how many ticks the
count takes (`interval`), and everything else follows from the distance between `start` and now.

**Expiry.** Each full interval since `start` is one expiration. A periodic channel then starts
again exactly one interval later, so several intervals at once give as many expirations
(`firings`); any other channel expires once and is idle. While a transfer of two bytes is half
done the channel holds still, and catches up afterwards.

**Reading.** A count can be latched, so that its two bytes belong together, and so can the status.
The status is read first, then the latched count, then the running count.
-/

namespace RealModeMonitor

/-- How a channel counts. -/
inductive TimerMode where
  | interruptOnTerminalCount
  | hardwareOneShot
  | rateGenerator
  | squareWave
  | softwareStrobe
  | hardwareStrobe
  deriving DecidableEq

namespace TimerMode

/-- The mode in the low three bits; 6 and 7 are other names of 2 and 3. -/
def ofBits (bits : UInt8) : TimerMode :=
  match (bits &&& 7).toNat with
  | 0 => interruptOnTerminalCount
  | 1 => hardwareOneShot
  | 2 | 6 => rateGenerator
  | 3 | 7 => squareWave
  | 4 => softwareStrobe
  | _ => hardwareStrobe

def number : TimerMode → Nat
  | interruptOnTerminalCount => 0
  | hardwareOneShot => 1
  | rateGenerator => 2
  | squareWave => 3
  | softwareStrobe => 4
  | hardwareStrobe => 5

/-- Whether the counter starts again after it expires. -/
def isPeriodic : TimerMode → Bool
  | rateGenerator | squareWave => true
  | interruptOnTerminalCount | hardwareOneShot | softwareStrobe | hardwareStrobe => false

end TimerMode

/-- Which bytes of a count go through the data port. -/
inductive ByteAccess where
  | lowByte
  | highByte
  /-- The low byte, then the high one. -/
  | lowHigh
  deriving DecidableEq

/-- The access in the low two bits; 0 is no access but the latch command. -/
def ByteAccess.ofBits? (bits : UInt8) : Option ByteAccess :=
  match (bits &&& 3).toNat with
  | 1 => some lowByte
  | 2 => some highByte
  | 3 => some lowHigh
  | _ => none

/-- What can be seen of a channel from outside the guest. -/
structure ChannelView where
  mode : TimerMode
  access : ByteAccess
  reload : UInt16
  armed : Bool
  start : UInt32
  interval : UInt32
  expirations : Nat
  deriving DecidableEq

structure Channel where
  mode : TimerMode := .interruptOnTerminalCount
  access : ByteAccess := .lowHigh
  /-- The low six bits of the last control word. -/
  control : UInt8 := 0x30
  reload : UInt16 := 0
  /-- The low byte of a reload whose high byte is still to come. -/
  pendingLow : Option UInt8 := none
  /-- Whether the next byte read of two is the high one. -/
  readsHigh : Bool := false
  countLatch : Option UInt16 := none
  statusLatch : Option UInt8 := none
  /-- Whether the counter has yet to take over the reload. -/
  nullCount : Bool := true
  armed : Bool := false
  start : UInt32 := 0
  interval : UInt32 := 0
  /-- Expirations since the channel was made. -/
  expirations : Nat := 0
  /-- Who is told of each expiration. -/
  watcher : Option String := none
  deriving DecidableEq

namespace Channel

/-- Clocks that a reload value counts. -/
def period (c : Channel) : UInt32 := if c.reload = 0 then 65536 else c.reload.toUInt32

def view (c : Channel) : ChannelView :=
  ⟨c.mode, c.access, c.reload, c.armed, c.start, c.interval, c.expirations⟩

/-! ## Programming -/

/-- Take a control word: the channel is idle until a reload is written. -/
def program (c : Channel) (control : UInt8) (access : ByteAccess) : Channel :=
  { c with
    mode := .ofBits (control >>> 1)
    access
    control := control &&& 0x3F
    pendingLow := none
    readsHigh := false
    countLatch := none
    nullCount := true
    armed := false }

/-- Start counting now. -/
def arm (c : Channel) (clock : Clock) : Channel :=
  { c with
    start := clock.now
    interval := clock.ticksOfCounts c.period
    armed := true
    nullCount := false }

/-- Take a byte of the reload, and say whether it completed the reload. -/
def write (c : Channel) (clock : Clock) (value : UInt8) : Bool × Channel :=
  match c.access, c.pendingLow with
  | .lowByte, _ => (true, { c with reload := Byte.word value 0 }.arm clock)
  | .highByte, _ => (true, { c with reload := Byte.word 0 value }.arm clock)
  | .lowHigh, none => (false, { c with pendingLow := some value, nullCount := true })
  | .lowHigh, some low =>
    (true, { c with reload := Byte.word low value, pendingLow := none }.arm clock)

/-! ## Expiry -/

/-- Whether a transfer of two bytes is half done. -/
def isHeld (c : Channel) : Bool := c.pendingLow.isSome || (c.countLatch.isSome && c.readsHigh)

/-- How often the channel is due at `now`. -/
def firings (c : Channel) (now : UInt32) : Nat :=
  if c.armed && !c.isHeld && c.interval != 0 then
    let due := (ticksSince now c.start).toNat / c.interval.toNat
    if c.mode.isPeriodic then due else min due 1
  else 0

/-- The channel after `n` firings. -/
def fired (c : Channel) (n : Nat) : Channel :=
  if c.mode.isPeriodic then
    { c with
      start := c.start + c.interval * UInt32.ofNat n
      expirations := c.expirations + n }
  else
    { c with
      armed := c.armed && n == 0
      expirations := c.expirations + n }

def expire (c : Channel) (now : UInt32) : Nat × Channel :=
  let n := c.firings now
  (n, c.fired n)

/-! ## Counting and reading -/

/-- The count that is left; 65536 shows as 0. -/
def count (c : Channel) (clock : Clock) : UInt16 :=
  if c.armed then
    let period := c.period.toNat
    let elapsed := clock.countsOfTicks (ticksSince clock.now c.start)
    UInt16.ofNat (if c.mode.isPeriodic then period - elapsed % period else period - elapsed)
  else if c.nullCount then c.reload
  else 0

/-- The level of the channel's output. -/
def out (c : Channel) (clock : Clock) : Bool :=
  match c.mode with
  | .interruptOnTerminalCount | .hardwareOneShot => !c.armed
  | .squareWave =>
    let n := c.count clock
    let left := if n = 0 then 65536 else n.toNat
    !c.armed || decide (c.period.toNat / 2 < left)
  | .rateGenerator | .softwareStrobe | .hardwareStrobe => true

/-- Output in bit 7, pending reload in bit 6, control word below. -/
def status (c : Channel) (clock : Clock) : UInt8 :=
  c.control ||| (if c.out clock then 0x80 else 0) ||| (if c.nullCount then 0x40 else 0)

/-- Keep the count for reading, unless one is kept already. -/
def latchCount (c : Channel) (clock : Clock) : Channel :=
  match c.countLatch with
  | some _ => c
  | none => { c with countLatch := some (c.count clock), readsHigh := false }

/-- Keep the status for reading, unless one is kept already. -/
def latchStatus (c : Channel) (clock : Clock) : Channel :=
  match c.statusLatch with
  | some _ => c
  | none => { c with statusLatch := some (c.status clock) }

def read (c : Channel) (clock : Clock) : UInt8 × Channel :=
  match c.statusLatch with
  | some status => (status, { c with statusLatch := none })
  | none =>
    let value := c.countLatch.getD (c.count clock)
    match c.access, c.readsHigh with
    | .lowByte, _ => (Byte.lowByte value, { c with countLatch := none })
    | .highByte, _ => (Byte.highByte value, { c with countLatch := none })
    | .lowHigh, false => (Byte.lowByte value, { c with readsHigh := true })
    | .lowHigh, true => (Byte.highByte value, { c with countLatch := none, readsHigh := false })

end Channel
end RealModeMonitor
