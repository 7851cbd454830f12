import Mathlib.Data.List.Basic
import RealModeMonitor.Proofs.Monitor.Run
import RealModeMonitor.Proofs.Vm.Course

/-!
# References to modules are accounted for

**Theorem (`references_accounted`).** At every moment, the references to a built-in module are
those of the live sessions and those of explicit opens that were not closed yet. A session
accounts for the paths from the module `vm`, and for the paths from the module of each device that
is present.

The invariant is `Accounted`. A session that works keeps its devices, and so its references; a
device that is attached opens its module first. The case with an argument is the death of a
session: its teardowns are the devices that are present, each of them once, so closing their
modules one after the other gives back exactly what the session accounts for (`counts_teardown`).

Explicit opens and closes are matched by name (`tally`). A close on request that no open matches
would take references away from sessions; what is proved is about runs without one.
-/

namespace RealModeMonitor

open ModuleTable Traced

/-! ## What a session accounts for -/

namespace Vm

variable {v v' : Vm} {id : DeviceId} {d : Device} {target : String}

/-- The modules of the devices at some places. -/
def modulesAt (v : Vm) (ids : List DeviceId) : List String :=
  ids.filterMap fun id => (v.device? id).bind fun d => d.kind.moduleName?

/-- The modules that the session's devices hold open. -/
def deviceModules (v : Vm) : List String := v.present.filterMap fun (_, d) => d.kind.moduleName?

/-- The references to a module that the session accounts for. -/
def held (target : String) (v : Vm) : Nat :=
  paths "vm" target + (v.deviceModules.map fun name => paths name target).sum

theorem deviceModules_eq_arena (v : Vm) :
    v.deviceModules = v.arena.filterMap fun o => o.bind fun d => d.kind.moduleName? := by
  have hkind : ∀ o : Option Device, (o.map Device.blank).bind (fun d => d.kind.moduleName?) =
      o.bind fun d => d.kind.moduleName? := by
    intro o
    cases o with
    | none => rfl
    | some d => simp [Device.kind_blank]
  calc v.deviceModules
    _ = v.devices.zipIdx.filterMap fun p => p.1.bind fun d => d.kind.moduleName? := by
      simp only [deviceModules, present, List.filterMap_filterMap, Option.bind_map]
      rfl
    _ = (v.devices.zipIdx.map Prod.fst).filterMap fun o => o.bind fun d => d.kind.moduleName? := by
      rw [List.filterMap_map]
      rfl
    _ = v.arena.filterMap fun o => o.bind fun d => d.kind.moduleName? := by
      rw [List.zipIdx_map_fst, arena, List.filterMap_map]
      exact List.filterMap_congr fun o _ => (hkind o).symm

theorem deviceModules_eq_modulesAt (v : Vm) : v.deviceModules = v.modulesAt v.deviceIds := by
  rw [modulesAt, deviceIds, List.filterMap_map, deviceModules]
  refine List.filterMap_congr fun p hp => ?_
  rw [Function.comp_apply, mem_present_iff.1 hp]
  rfl

theorem Keeps.held (h : v.Keeps v') : v'.held target = v.held target := by
  rw [Vm.held, deviceModules_eq_arena, h.arena, ← deviceModules_eq_arena, Vm.held]

theorem held_attach (v : Vm) (d : Device) :
    (v.attach d).2.held target =
      v.held target + (d.kind.moduleName?.map fun name => paths name target).getD 0 := by
  have hkind : d.blank.kind = d.kind := d.kind_blank
  rw [held, deviceModules_eq_arena, arena_attach, List.filterMap_append, held,
    deviceModules_eq_arena]
  cases h : d.kind.moduleName? <;> simp [hkind, h, Nat.add_assoc]

theorem held_retract (v : Vm) (d : Device) :
    ((v.attach d).2.detach (v.attach d).1).held target = v.held target := by
  rw [held, deviceModules_eq_arena, arena_retract, List.filterMap_append, held,
    deviceModules_eq_arena]
  simp

theorem held_new (id : VmId) (memory : Memory) (ioHandlers : Nat) :
    (new id memory ioHandlers).held target = paths "vm" target :=
  Nat.add_zero _

theorem modulesAt_cons (v : Vm) (id : DeviceId) (ids : List DeviceId) :
    v.modulesAt (id :: ids) =
      ((v.device? id).bind fun d => d.kind.moduleName?).toList ++ v.modulesAt ids := by
  rw [modulesAt, List.filterMap_cons]
  split <;> simp_all [modulesAt]

/-- Taking a device out leaves the others where they are. -/
theorem modulesAt_setDevice {ids : List DeviceId} (h : id ∉ ids) (io : HandlerTable) :
    modulesAt { v.setDevice id none with io } ids = v.modulesAt ids := by
  refine List.filterMap_congr fun other hother => ?_
  have hne : id ≠ other := fun heq => h (heq ▸ hother)
  show ((v.setDevice id none).device? other).bind _ = _
  rw [device?_setDevice, if_neg fun hand => hne hand.1]

end Vm

namespace Monitor

variable {config : Config} {m m' : Monitor} {id : VmId} {v : Vm} {opens opens' : List String}

/-! ## Explicit opens -/

/-- Match an open or close on request. There is no way to match a close of what is not open. -/
def tally (opens : List String) : Incident → Option (List String)
  | .opened name => some (name :: opens)
  | .closed name => if name ∈ opens then some (opens.erase name) else none
  | .born _ | .died _ => some opens

/-- The explicit opens that are not matched by a close, if every close is matched by an open. -/
def outstanding (h : List Incident) : Option (List String) := h.foldlM tally []

/-! ## The teardown -/

/-- Closing the module of a device that is gone. -/
theorem counts_closeForDevice {t : ModuleTable} {kind : DeviceKind} {f : String → Nat}
    (ht : t.Counts fun b => f b + (kind.moduleName?.map fun name => paths name b).getD 0) :
    (closeForDevice t kind).val.Counts f := by
  unfold closeForDevice
  cases hname : kind.moduleName? with
  | none =>
    simp only [hname, Option.map_none, Option.getD_none] at ht
    exact ht
  | some name =>
    simp only [hname, Option.map_some, Option.getD_some] at ht
    dsimp only
    rw [val_closeForSession]
    exact Counts.closeModule (isBuiltin_moduleName hname) ht

theorem counts_openForDevice {t t' : ModuleTable} {kind : DeviceKind} {f : String → Nat}
    (ht : t.Counts f) (hopen : (openForDevice t kind).val = (.ok (), t')) :
    t'.Counts fun b => f b + (kind.moduleName?.map fun name => paths name b).getD 0 := by
  unfold openForDevice at hopen
  cases hname : kind.moduleName? with
  | none =>
    simp only [hname] at hopen
    obtain rfl : t' = t := (Prod.mk.inj hopen).2.symm
    exact ht
  | some name =>
    simp only [hname] at hopen
    exact (ht.openModule hopen).2

/-- **The teardown** of a session gives back the references of the devices that are torn down. -/
theorem counts_teardown (hs : List KillHandler) (v : Vm) {t : ModuleTable} {f : String → Nat}
    (hnodup : (hs.filterMap KillHandler.device?).Nodup)
    (ht : t.Counts fun b => f b +
      ((v.modulesAt (hs.filterMap KillHandler.device?)).map fun name => paths name b).sum) :
    (hs.foldlM teardownStep (v, t)).val.2.Counts f := by
  induction hs generalizing v t with
  | nil => exact ht
  | cons h hs ih =>
    rw [List.foldlM_cons, val_bind]
    cases h with
    | callback name => exact ih v hnodup ht
    | device device =>
      have hcons : (KillHandler.device device :: hs).filterMap KillHandler.device? =
          device :: hs.filterMap KillHandler.device? := rfl
      obtain ⟨hdevice, hnodup⟩ := List.nodup_cons.1 hnodup
      cases hd : v.device? device with
      | none =>
        rw [teardownStep_gone hd]
        refine ih v hnodup (ht.congr fun info _ => ?_)
        rw [hcons, Vm.modulesAt_cons, hd]
        rfl
      | some d =>
        rw [teardownStep_present hd]
        refine ih _ hnodup ?_
        rw [Vm.modulesAt_setDevice hdevice]
        refine counts_closeForDevice (ht.congr fun info _ => ?_)
        rw [hcons, Vm.modulesAt_cons, hd, Option.bind_some]
        cases d.kind.moduleName? with
        | none => rfl
        | some name =>
          simp only [Option.toList_some, List.singleton_append, List.map_cons, List.sum_cons,
            Option.map_some, Option.getD_some]
          omega

theorem counts_bury {f : String → Nat} (hlive : m.registry.get? id = some v) (hv : v.Swept)
    (ht : m.modules.Counts fun b => f b + v.held b) : (m.bury id).val.2.modules.Counts f := by
  have hteardowns : v.killHandlers.filterMap KillHandler.device? = v.deviceIds := hv
  rw [bury_live hlive]
  let torn := (v.killHandlers.foldlM teardownStep (dying v, m.modules)).val
  show (closeForSession torn.2 "vm").val.Counts f
  rw [val_closeForSession]
  refine Counts.closeModule (by decide) (counts_teardown _ _ ?_ (ht.congr fun info _ => ?_))
  · rw [hteardowns]
    exact v.nodup_deviceIds
  · rw [hteardowns, Vm.held, Vm.deviceModules_eq_modulesAt, Nat.add_assoc]
    rfl

/-! ## The invariant -/

/-- Every reference belongs to a live session or to an explicit open. -/
def Accounted (opens : List String) (m : Monitor) : Prop :=
  m.modules.Counts fun b => m.registry.total (Vm.held b) + (opens.map fun name => paths name b).sum

theorem Accounted.step {l : List Incident} (ha : Accounted opens m) (hm : Sound config m)
    (hstep : Step m l m') (htally : l.foldlM tally opens = some opens') : Accounted opens' m' := by
  cases hstep with
  | elsewhere hconfig hslots hholds =>
    obtain rfl : opens = opens' := Option.some.inj htally
    refine (ha.of_holds hholds).congr fun info _ => ?_
    have hvms : m'.registry.vms = m.registry.vms := by rw [Registry.vms, hslots, Registry.vms]
    rw [Registry.total, Registry.total, hvms]
  | @work id v v' live keeps =>
    obtain rfl : opens = opens' := Option.some.inj htally
    refine ha.congr fun info _ => ?_
    have := Registry.total_set (Vm.held info.name) live v'
    rw [keeps.held] at this
    dsimp only
    omega
  | @attach id v v' d modules live hopen keeps =>
    obtain rfl : opens = opens' := Option.some.inj htally
    refine (counts_openForDevice ha hopen).congr fun info _ => ?_
    have := Registry.total_set (Vm.held info.name) live v'
    rw [keeps.held, Vm.held_attach] at this
    dsimp only
    omega
  | @retract id v v' d modules live hopen keeps =>
    obtain rfl : opens = opens' := Option.some.inj htally
    refine counts_closeForDevice ((counts_openForDevice ha hopen).congr fun info _ => ?_)
    have := Registry.total_set (Vm.held info.name) live v'
    rw [keeps.held, Vm.held_retract] at this
    dsimp only
    omega
  | @create id memory registry modules created hopen =>
    obtain rfl : opens = opens' := Option.some.inj htally
    refine (ModuleTable.Counts.openModule ha hopen).2.congr fun info _ => ?_
    have := Registry.total_create (Vm.held info.name) hm.named created
    rw [Vm.held_new] at this
    dsimp only
    omega
  | @bury id v live =>
    obtain rfl : opens = opens' := Option.some.inj htally
    refine counts_bury live (hm.swept _ _ live) (ha.congr fun info _ => ?_)
    have := Registry.total_remove (Vm.held info.name) live
    rw [registry_bury]
    omega
  | @opened name least modules hopen =>
    obtain rfl : name :: opens = opens' := Option.some.inj htally
    refine (ModuleTable.Counts.openModule ha hopen).2.congr fun info _ => ?_
    rw [List.map_cons, List.sum_cons]
    dsimp only
    omega
  | @closed name closes =>
    have hname := (closeModule_ok_iff hm.infos).1 closes
    by_cases hmem : name ∈ opens
    · obtain rfl : opens.erase name = opens' := by simpa [tally, hmem] using htally
      refine ModuleTable.Counts.closeModule hname (ha.congr fun info _ => ?_)
      have := ((List.perm_cons_erase hmem).map fun name => paths name info.name).sum_nat
      rw [List.map_cons, List.sum_cons] at this
      dsimp only
      omega
    · simp [tally, hmem] at htally

theorem Accounted.steps {l : List Incident} (hsteps : Steps m l m') (ha : Accounted opens m)
    (hm : Sound config m) (htally : l.foldlM tally opens = some opens') : Accounted opens' m' := by
  induction hsteps generalizing opens with
  | refl m =>
    obtain rfl : opens = opens' := Option.some.inj htally
    exact ha
  | @head m m₁ m' l l' first rest ih =>
    rw [List.foldlM_append] at htally
    obtain ⟨opens₁, hfirst, hrest⟩ := Option.bind_eq_some_iff.1 htally
    exact ih (ha.step hm first hfirst) (hm.step first) hrest

end Monitor
end RealModeMonitor
