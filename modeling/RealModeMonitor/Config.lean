import RealModeMonitor.Clock
import RealModeMonitor.Text.Hex

/-!
# Limits and rates of a monitor

A configuration is usable when there is room for at least one session and one port handler, the
clock runs, and guest memory holds the interrupt vectors and the BIOS data area. `Config.check`
reports the first requirement that fails.
-/

namespace RealModeMonitor

/-- Bytes that real-mode addresses reach: one megabyte and the high memory area. -/
def realModeMemory : Nat := 0x110000

/-- The vector table and the BIOS data area end here. -/
def leastGuestMemory : Nat := 0x500

/-- The most slots a monitor may have. -/
def mostSlots : Nat := 65535

structure Config where
  /-- Slots for sessions. -/
  maxVms : Nat := 16
  /-- Port ranges that one session may route. -/
  maxIoHandlers : Nat := 64
  /-- Host ticks per second. -/
  tickHz : UInt32 := UInt32.ofNat timerInputHz
  /-- Bytes of memory of each guest. -/
  guestMemory : Nat := realModeMemory
  deriving DecidableEq

inductive ConfigError where
  | slots (maxVms : Nat)
  | noHandlers
  | stoppedClock
  | smallMemory (size : Nat)
  deriving DecidableEq

def ConfigError.message : ConfigError → String
  | slots n => "max_vms must be in 1..=" ++ toString mostSlots ++ ", got " ++ toString n
  | noHandlers => "max_io_handlers must be non-zero"
  | stoppedClock => "tick_hz must be non-zero"
  | smallMemory n =>
    "guest memory must be at least " ++ Text.hex leastGuestMemory ++ " bytes, got " ++ Text.hex n

def Config.check (c : Config) : Except ConfigError Unit :=
  if c.maxVms = 0 ∨ mostSlots < c.maxVms then .error (.slots c.maxVms)
  else if c.maxIoHandlers = 0 then .error .noHandlers
  else if c.tickHz = 0 then .error .stoppedClock
  else if c.guestMemory < leastGuestMemory then .error (.smallMemory c.guestMemory)
  else .ok ()

end RealModeMonitor
