import RealModeMonitor.Monitor.Error
import RealModeMonitor.Port.Range

/-!
# Which device answers which port

A session routes ranges of ports to its devices. The ranges never overlap and stand in the order
of their first ports; there are no more of them than the table's capacity. So each port has at
most one entry, and every operation finds its place by bisection and looks at the entries beside
that place only.
-/

namespace RealModeMonitor

structure PortEntry where
  range : PortRange
  device : DeviceId
  deriving DecidableEq

structure HandlerTable where
  capacity : Nat
  entries : List PortEntry := []

namespace HandlerTable

/-! ## Places -/

/-- Where between `lo` and `hi` the entries for which `p` holds end, if they stand before all
others. -/
def bisect (entries : List PortEntry) (p : PortEntry → Bool) (lo hi : Nat) : Nat :=
  if lo < hi then
    let middle := (lo + hi) / 2
    if (entries[middle]?).any p then bisect entries p (middle + 1) hi
    else bisect entries p lo middle
  else lo
termination_by hi - lo

/-- The place of the first entry for which `p` fails. -/
def place (t : HandlerTable) (p : PortEntry → Bool) : Nat := bisect t.entries p 0 t.entries.length

/-- The first place whose entry starts at `port` or after it. -/
def placeFrom (t : HandlerTable) (port : UInt16) : Nat := t.place fun e => e.range.start < port

/-- The first place whose entry starts after `port`. -/
def placeAfter (t : HandlerTable) (port : UInt16) : Nat := t.place fun e => e.range.start ≤ port

def entryAt? (t : HandlerTable) (i : Nat) : Option PortEntry := t.entries[i]?

def entryBefore? (t : HandlerTable) : Nat → Option PortEntry
  | 0 => none
  | i + 1 => t.entryAt? i

/-- The entries beside place `i`: the one before it and the one at it. -/
def beside (t : HandlerTable) (i : Nat) : List PortEntry :=
  (t.entryBefore? i).toList ++ (t.entryAt? i).toList

/-! ## Operations -/

/-- Route `range` to `device`, unless one of its ports is routed already or the table is full. As
the entries do not overlap each other, only those beside the new one's place can overlap it. -/
def add (t : HandlerTable) (range : PortRange) (device : DeviceId) :
    Except MonitorError HandlerTable :=
  let i := t.placeFrom range.start
  if (t.beside i).any fun e => e.range.overlaps range then
    .error (.conflict range.start range.last)
  else if t.capacity ≤ t.entries.length then .error (.exhausted .ioHandlerSlot)
  else .ok { t with entries := t.entries.insertIdx i ⟨range, device⟩ }

/-- Route ranges to `device` in order, up to the first that is refused. Those before it stay. -/
def addAll (t : HandlerTable) (device : DeviceId) :
    List PortRange → Except MonitorError Unit × HandlerTable
  | [] => (.ok (), t)
  | range :: ranges =>
    match t.add range device with
    | .ok t => t.addAll device ranges
    | .error e => (.error e, t)

/-- Drop the entry of exactly `range`, and say which device it named. -/
def remove (t : HandlerTable) (range : PortRange) : Option DeviceId × HandlerTable :=
  let i := t.placeFrom range.start
  match t.entryAt? i with
  | none => (none, t)
  | some e =>
    if e.range = range then (some e.device, { t with entries := t.entries.eraseIdx i })
    else (none, t)

/-- Drop every entry of `device`. -/
def removeDevice (t : HandlerTable) (device : DeviceId) : HandlerTable :=
  { t with entries := t.entries.filter fun e => e.device ≠ device }

/-- The entry whose range contains `port`. -/
def get? (t : HandlerTable) (port : UInt16) : Option PortEntry :=
  (t.entryBefore? (t.placeAfter port)).filter fun e => e.range.contains port

end HandlerTable
end RealModeMonitor
