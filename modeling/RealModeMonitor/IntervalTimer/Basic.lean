import RealModeMonitor.Device.Bus
import RealModeMonitor.IntervalTimer.Channel

/-!
# The interval timer

Three channels behind four ports: a data port for each channel and one port for control words.
Channel 0 raises interrupt line 0 with every expiration. Expiry is evaluated on every host tick
and whenever the guest reads a data port (`runExpiry`), channel after channel; each expiration is
signalled once.

A control word programs one channel, or latches its count, or (read-back) latches counts and
statuses of several channels. Counting in decimal is reported as missing; the rest of such a
control word counts.
-/

namespace RealModeMonitor

structure IntervalTimer where
  channels : Vector Channel 3 := Vector.replicate 3 {}
  deriving DecidableEq

namespace IntervalTimer

def initial : IntervalTimer := {}

def firstPort : UInt16 := 0x40

def controlPort : UInt16 := 0x43

/-- The line that channel 0 raises. -/
def timerLine : UInt8 := 0

def channel (t : IntervalTimer) (i : Fin 3) : Channel := t.channels[i]

def setChannel (t : IntervalTimer) (i : Fin 3) (c : Channel) : IntervalTimer :=
  ⟨t.channels.set i c⟩

theorem channel_setChannel (t : IntervalTimer) (i j : Fin 3) (c : Channel) :
    (t.setChannel i c).channel j = if i = j then c else t.channel j := by
  simp only [channel, setChannel, Fin.getElem_fin, Vector.getElem_set, Fin.val_inj]

/-- The channel with this number. -/
def channelOf? (n : UInt8) : Option (Fin 3) :=
  if h : n.toNat < 3 then some ⟨n.toNat, h⟩ else none

def views (t : IntervalTimer) : List ChannelView := t.channels.toList.map Channel.view

/-- Tell a watcher of every expiration of a channel from now on, or nobody. -/
def watch (t : IntervalTimer) (n : UInt8) (watcher : Option String) :
    Except DeviceError IntervalTimer :=
  match channelOf? n with
  | some i => .ok (t.setChannel i { t.channel i with watcher })
  | none => .error (.channelOutOfRange n)

/-! ## Expiry -/

/-- Raise the timer's line. A guest that cannot take the interrupt now gets it later. -/
def raiseTimerLine (b : Bus) : Traced Bus := do
  let (r, b) ← b.raise timerLine
  if let .error e := r then
    Traced.tell (.timerIrqDeferred b.vm e)
  return b

/-- Tell the watcher of channel `i`, if it has one. -/
def notify (vm : VmId) (i : Fin 3) : Option String → Traced Unit
  | some watcher => Traced.record (.timerExpired vm i watcher)
  | none => pure ()

/-- One expiration of channel `i`. -/
def signal (i : Fin 3) (watcher : Option String) (b : Bus) : Traced Bus := do
  let b ← if i = 0 then raiseTimerLine b else pure b
  notify b.vm i watcher
  return b

/-- `n` expirations of channel `i`. Those that nobody notices are passed over. -/
def signalAll (i : Fin 3) (watcher : Option String) (n : Nat) (b : Bus) : Traced Bus :=
  if i = 0 ∨ watcher.isSome then Traced.times (signal i watcher) n (pure b) else pure b

/-- Bring channel `i` up to date and signal its expirations. -/
def expireChannel (s : IntervalTimer × Bus) (i : Fin 3) : Traced (IntervalTimer × Bus) := do
  let (t, b) := s
  let (n, c) := (t.channel i).expire b.clock.now
  let b ← signalAll i c.watcher n b
  return (t.setChannel i c, b)

/-- Bring every channel up to date. -/
def runExpiry (t : IntervalTimer) (b : Bus) : Traced (IntervalTimer × Bus) :=
  (List.finRange 3).foldlM expireChannel (t, b)

/-! ## Control words -/

/-- Read-back: bits 1 to 3 choose channels, a clear bit 5 latches counts, a clear bit 4
statuses. -/
def readBack (t : IntervalTimer) (clock : Clock) (value : UInt8) : IntervalTimer :=
  ⟨Vector.ofFn fun i =>
    let c := t.channel i
    if Byte.bit value (i + 1) then
      let c := if Byte.bit value 5 then c else c.latchCount clock
      if Byte.bit value 4 then c else c.latchStatus clock
    else c⟩

/-- Program a channel, or latch its count. -/
def controlChannel (t : IntervalTimer) (i : Fin 3) (b : Bus) (value : UInt8) :
    Traced IntervalTimer :=
  match ByteAccess.ofBits? (value >>> 4) with
  | none => pure (t.setChannel i ((t.channel i).latchCount b.clock))
  | some access => do
    let c := (t.channel i).program value access
    Traced.tell (.channelProgrammed b.vm i c.mode.number)
    return t.setChannel i c

def writeControl (t : IntervalTimer) (b : Bus) (value : UInt8) : Traced IntervalTimer :=
  match channelOf? (value >>> 6) with
  | none => pure (t.readBack b.clock value)
  | some i => do
    let t ← t.controlChannel i b value
    if Byte.bit value 0 then
      Traced.tell (.deviceComplaint b.vm (.unsupported .pit "BCD counting" value))
    return t

/-! ## Ports -/

/-- The channel whose data port this is. -/
def dataPort? (port : UInt16) : Option (Fin 3) :=
  if h : firstPort.toNat ≤ port.toNat ∧ port.toNat < controlPort.toNat then
    some ⟨port.toNat - firstPort.toNat, by simp [firstPort, controlPort] at *; omega⟩
  else none

def readPort (t : IntervalTimer) (port : UInt16) (b : Bus) :
    Traced (UInt8 × IntervalTimer × Bus) :=
  match dataPort? port with
  | none => pure (0xFF, t, b)
  | some i => do
    let (t, b) ← t.runExpiry b
    let (value, c) := (t.channel i).read b.clock
    return (value, t.setChannel i c, b)

def writePort (t : IntervalTimer) (port : UInt16) (value : UInt8) (b : Bus) :
    Traced IntervalTimer :=
  if port = controlPort then t.writeControl b value
  else match dataPort? port with
    | none => pure t
    | some i => do
      let (complete, c) := (t.channel i).write b.clock value
      if complete then
        Traced.tell (.channelArmed b.vm i c.period c.interval)
      return t.setChannel i c

/-- Nothing counts any more and nobody watches. -/
def stop (t : IntervalTimer) : IntervalTimer :=
  ⟨t.channels.map fun c => { c with armed := false, watcher := none }⟩

end IntervalTimer
end RealModeMonitor
