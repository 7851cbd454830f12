/-!
# The host clock

All timers are measured against one host tick counter of 32 bits, which wraps. Points in time are
never compared, only the distance from a start to now is (`ticksSince`).

Timer counters run at `timerInputHz`, the host clock at a rate of its own. A count is turned into
host ticks by rounding up (`ticksOfCounts`), host ticks into counts by rounding down
(`countsOfTicks`). Both are computed without a limit; only the number of ticks is cut to 32 bits.
-/

namespace RealModeMonitor

/-- Counts per second of the timer's input. -/
def timerInputHz : Nat := 1193182

/-- The distance from `start` to `now` on a counter that wraps. -/
def ticksSince (now start : UInt32) : UInt32 := now - start

structure Clock where
  /-- Host ticks per second. -/
  hz : UInt32
  /-- The current tick. -/
  now : UInt32 := 0
  deriving DecidableEq

namespace Clock

def advance (c : Clock) (n : UInt32) : Clock := { c with now := c.now + n }

@[simp] theorem hz_advance (c : Clock) (n : UInt32) : (c.advance n).hz = c.hz := rfl

@[simp] theorem now_advance (c : Clock) (n : UInt32) : (c.advance n).now = c.now + n := rfl

/-- The ticks that `p` counts need, rounded up and cut to 32 bits. A count above zero needs at
least one tick, so that a timer always makes progress. -/
def ticksOfCounts (c : Clock) (p : UInt32) : UInt32 :=
  if p = 0 then 0 else
    let exact := (p.toNat * c.hz.toNat + (timerInputHz - 1)) / timerInputHz
    UInt32.ofNat (max 1 (min exact (UInt32.size - 1)))

/-- The counts that pass in `t` ticks, rounded down. -/
def countsOfTicks (c : Clock) (t : UInt32) : Nat :=
  t.toNat * timerInputHz / max c.hz.toNat 1

end Clock
end RealModeMonitor
