import Mathlib.Data.List.Basic
import RealModeMonitor.Proofs.Monitor.Death
import RealModeMonitor.Proofs.Vm.Course
import RealModeMonitor.Proofs.Vm.Fault

/-!
# Last rites

A teardown goes through the kill handlers of a session in order. Each handler is worth a **rite**:
the notes of one step, which depend on the session as it is when its teardown begins
(`Vm.rite`). A step takes a device out of the arena, and no other step is for that device, so the
rites that are held are those of all handlers, one after the other (`lastHeard_eq`).

The working of a session holds no rites (`Only.no_rites`), so the rites that are heard of a session
are what is heard of its teardown.
-/

namespace RealModeMonitor

open Traced

/-! ## Rites -/

/-- What is noted when the device is torn down. -/
def Device.rites (vm : VmId) (d : Device) : List Note :=
  (match d with
    | external d => [.event (.device d.name vm .teardown [])]
    | pic _ | pit _ | dma _ | cmos _ => []) ++ [.diagnostic (.deviceTornDown vm d.name)]

namespace Vm

/-- What is noted at one step of the session's teardown. -/
def rite (v : Vm) : KillHandler → List Note
  | .device id => ((v.device? id).map (Device.rites v.id)).getD []
  | .callback name => [.diagnostic (.killHandlerRuns v.id name), .event (.killHandler name v.id)]

/-- What is noted at the session's teardown. -/
def rites (v : Vm) : List Note := v.killHandlers.flatMap v.rite

end Vm

/-- What is noted does not depend on the state of the device. -/
theorem Device.rites_of_blank {d d' : Device} (h : d'.blank = d.blank) (vm : VmId) :
    d'.rites vm = d.rites vm := by
  have hblank : ∀ d : Device, d.blank.rites vm = d.rites vm := fun d => by cases d <;> rfl
  rw [← hblank d', h, hblank]

/-- A session that goes on without registering anything goes towards the same teardown. -/
theorem Vm.Course.rites_eq {v v' : Vm} (h : v.Course [] v') (hv : v.Swept) :
    v'.rites = v.rites := by
  rw [Vm.rites, h.killHandlers, List.append_nil, Vm.rites]
  refine List.flatMap_congr fun handler hhandler => ?_
  cases handler with
  | callback name => rw [Vm.rite, Vm.rite, h.id]
  | device id =>
    have hteardown : id ∈ v.teardowns := List.mem_filterMap.2 ⟨_, hhandler, rfl⟩
    have hpresent : id ∈ v.deviceIds := hv ▸ hteardown
    obtain ⟨d, hd⟩ := mem_deviceIds_iff.1 hpresent
    obtain ⟨d', hd', hblank⟩ := device?_of_prefix h.arena hd
    rw [Vm.rite, Vm.rite, hd', hd, h.id]
    exact Device.rites_of_blank hblank v.id

theorem Device.isRite_of_mem {vm : VmId} {d : Device} {n : Note} (h : n ∈ d.rites vm) :
    n.isRite = true ∧ n.isStray = false := by
  cases d <;> simp only [Device.rites, List.nil_append, List.cons_append, List.mem_cons,
    List.not_mem_nil, or_false] at h <;> rcases h with rfl | rfl <;> exact ⟨rfl, rfl⟩

theorem Vm.isRite_of_mem {v : Vm} {n : Note} (h : n ∈ v.rites) :
    n.isRite = true ∧ n.isStray = false := by
  obtain ⟨handler, -, hn⟩ := List.mem_flatMap.1 h
  cases handler with
  | device id =>
    rw [rite] at hn
    cases hd : v.device? id with
    | none => simp [hd] at hn
    | some d =>
      rw [hd] at hn
      exact Device.isRite_of_mem hn
  | callback name =>
    simp only [rite, List.mem_cons, List.not_mem_nil, or_false] at hn
    rcases hn with rfl | rfl <;> exact ⟨rfl, rfl⟩

namespace Traced

variable {α β : Type} {x : Traced α} {vm b : VmId}

/-- The rites that are heard of a session. -/
def rites (b : VmId) (x : Traced α) : List Note := (x.heard b).filter Note.isRite

@[simp] theorem rites_pure (a : α) : (pure a : Traced α).rites b = [] := rfl

@[simp] theorem rites_bind (x : Traced α) (f : α → Traced β) :
    (x >>= f).rites b = x.rites b ++ (f x.val).rites b := by
  simp [rites]

@[simp] theorem rites_map (f : α → β) (x : Traced α) : (f <$> x).rites b = x.rites b := by
  simp [rites]

theorem rites_of_silent (h : x.heard b = []) : x.rites b = [] := by
  rw [rites, h]
  rfl

theorem strays_of_silent (h : x.heard b = []) : x.strays b = false := by
  rw [strays, h]
  rfl

/-- The working of a session holds no rites. -/
theorem Only.no_rites (hx : x.Only (Note.AtWork vm)) : x.rites b = [] := by
  rw [rites, List.filter_eq_nil_iff]
  intro n hn
  have hwork := hx n (Array.mem_toList_iff.1 (List.mem_filter.1 hn).1)
  simp [hwork.rite]

end Traced

/-! ## The teardown -/

namespace Monitor

variable {m : Monitor} {id b : VmId} {v : Vm}

theorem heard_deviceTeardown (vm : VmId) (d : Device) (t : ModuleTable) :
    (do
      d.teardown vm
      let t ← closeForDevice t d.kind
      Traced.tell (.deviceTornDown vm d.name)
      return t : Traced ModuleTable).heard vm = d.rites vm := by
  simp only [heard_bind, heard_closeForDevice, heard_pure, List.append_nil, List.nil_append]
  cases d <;> simp [Device.teardown, ExternalDevice.teardown, Device.rites, heard, Traced.tell,
    Traced.record, Note.vm?, Event.vm]

theorem heard_step (v : Vm) (t : ModuleTable) (h : KillHandler) :
    (teardownStep (v, t) h).heard v.id = v.rite h := by
  cases h with
  | callback name =>
    simp [teardownStep, Vm.rite, heard, Traced.tell, Traced.record, Note.vm?, Event.vm]
  | device device =>
    cases hd : v.device? device with
    | none =>
      rw [teardownStep_gone hd, Vm.rite, hd]
      rfl
    | some d =>
      rw [teardownStep_present hd, Vm.rite, hd, Option.map_some, Option.getD_some,
        ← heard_deviceTeardown v.id d t]
      simp only [heard_bind, heard_pure]

/-- A step takes nothing away from the steps for other devices. -/
theorem rite_step {h other : KillHandler} (hne : h.device? = none ∨ h.device? ≠ other.device?)
    (v : Vm) (t : ModuleTable) :
    (teardownStep (v, t) h).val.1.rite other = v.rite other := by
  cases h with
  | callback name => rfl
  | device device =>
    cases hd : v.device? device with
    | none => rw [teardownStep_gone hd]; rfl
    | some d =>
      rw [teardownStep_present hd]
      cases other with
      | callback name => rfl
      | device device' =>
        have hdevice : device' ≠ device := by
          rintro rfl
          rcases hne with hne | hne
          · cases hne
          · exact hne rfl
        show (((v.setDevice device none).device? device').map (Device.rites v.id)).getD [] = _
        rw [Vm.device?_setDevice_other hdevice, Vm.rite]

/-- **A teardown** takes each step once, in order. -/
theorem heard_teardown_eq (hs : List KillHandler) (v : Vm) (t : ModuleTable)
    (hnodup : (hs.filterMap KillHandler.device?).Nodup) :
    (hs.foldlM teardownStep (v, t)).heard v.id = hs.flatMap v.rite := by
  induction hs generalizing v t with
  | nil => rfl
  | cons h hs ih =>
    have hrest : (hs.filterMap KillHandler.device?).Nodup ∧
        ∀ other ∈ hs, h.device? = none ∨ h.device? ≠ other.device? := by
      rw [List.filterMap_cons] at hnodup
      split at hnodup
      next hnone => exact ⟨hnodup, fun _ _ => .inl hnone⟩
      next device hdevice =>
        obtain ⟨hnot, hnodup⟩ := List.nodup_cons.1 hnodup
        refine ⟨hnodup, fun other hother => .inr fun heq => hnot ?_⟩
        exact List.mem_filterMap.2 ⟨other, hother, heq ▸ hdevice⟩
    have hid := (notes_teardownStep (v, t) h).2
    have hnext := ih (teardownStep (v, t) h).val.1 (teardownStep (v, t) h).val.2 hrest.1
    rw [hid] at hnext
    rw [List.foldlM_cons, heard_bind, heard_step, List.flatMap_cons, hnext]
    exact congrArg _ (List.flatMap_congr fun other hother => rite_step (hrest.2 other hother) v t)

theorem lastHeard_eq (hv : v.Swept) : lastHeard v.id v = v.rites := by
  have hnodup : (v.killHandlers.filterMap KillHandler.device?).Nodup := by
    have hswept : v.killHandlers.filterMap KillHandler.device? = v.deviceIds := hv
    rw [hswept]
    exact v.nodup_deviceIds
  exact heard_teardown_eq v.killHandlers (dying v) .initial hnodup

theorem rites_lastHeard (hv : v.Swept) : (lastHeard v.id v).filter Note.isRite = v.rites := by
  rw [lastHeard_eq hv, List.filter_eq_self]
  exact fun n hn => (Vm.isRite_of_mem hn).1

theorem strays_lastHeard (hv : v.Swept) : (lastHeard v.id v).any Note.isStray = false := by
  rw [lastHeard_eq hv, List.any_eq_false]
  exact fun n hn => Bool.eq_false_iff.1 (Vm.isRite_of_mem hn).2

end Monitor
end RealModeMonitor
