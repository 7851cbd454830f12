import RealModeMonitor.Proofs.ModuleTable.References
import RealModeMonitor.Proofs.Monitor.Death

/-!
# What an operation can do to sessions and modules

Whatever a monitor is asked, its sessions and modules change by few kinds of **steps**: a session
works, a device is attached or is taken out at once, a session starts or dies, a module is opened
or closed on request. `Step` says what each of them does, and with which **incidents** it is
remembered.

**Soundness.** In a sound monitor the slots are named, the modules are the built-in ones, and each
session will tear down exactly the devices that it has. Every step keeps that (`Sound.step`).
-/

namespace RealModeMonitor

open Traced

namespace Monitor

variable {α β : Type} {config : Config} {m m₁ m' : Monitor} {id : VmId} {v : Vm} {op : Op}

/-! ## Incidents -/

/-- What is remembered of an operation. -/
inductive Incident where
  /-- The name was given to a new session. -/
  | born (id : VmId)
  | died (id : VmId)
  /-- The module was opened, or closed, on request. -/
  | opened (name : String)
  | closed (name : String)
  deriving DecidableEq

/-! ## Steps -/

inductive Step : Monitor → List Incident → Monitor → Prop where
  /-- Sessions, references and limits stay. -/
  | elsewhere {m m' : Monitor} (config : m'.config = m.config)
      (slots : m'.registry.slots = m.registry.slots) (holds : m'.modules.holds = m.modules.holds) :
      Step m [] m'
  | work {m : Monitor} {id : VmId} {v v' : Vm} (live : m.registry.get? id = some v)
      (keeps : v.Keeps v') : Step m [] { m with registry := m.registry.set id v' }
  | attach {m : Monitor} {id : VmId} {v v' : Vm} {d : Device} {modules : ModuleTable}
      (live : m.registry.get? id = some v)
      (opens : (openForDevice m.modules d.kind).val = (.ok (), modules))
      (keeps : (v.attach d).2.Keeps v') :
      Step m [] { m with modules, registry := m.registry.set id v' }
  /-- The device is attached and taken out at once. -/
  | retract {m : Monitor} {id : VmId} {v v' : Vm} {d : Device} {modules : ModuleTable}
      (live : m.registry.get? id = some v)
      (opens : (openForDevice m.modules d.kind).val = (.ok (), modules))
      (keeps : ((v.attach d).2.detach (v.attach d).1).Keeps v') :
      Step m []
        { m with
          modules := (closeForDevice modules d.kind).val
          registry := m.registry.set id v' }
  | create {m : Monitor} {id : VmId} {memory : Memory} {registry : Registry} {modules : ModuleTable}
      (created : m.registry.create memory m.config.maxIoHandlers = .ok (id, registry))
      (opens : (m.modules.openModule "vm" 0).val = (.ok (), modules)) :
      Step m [.born id] { m with registry, modules }
  | bury {m : Monitor} {id : VmId} {v : Vm} (live : m.registry.get? id = some v) :
      Step m [.died id] (m.bury id).val.2
  | opened {m : Monitor} {name : String} {least : UInt32} {modules : ModuleTable}
      (opens : (m.modules.openModule name least).val = (.ok (), modules)) :
      Step m [.opened name] { m with modules }
  | closed {m : Monitor} {name : String} (closes : (m.modules.closeModule name).val.1 = .ok ()) :
      Step m [.closed name] { m with modules := (m.modules.closeModule name).val.2 }

theorem Step.recount {modules : ModuleTable} (h : modules.holds = m.modules.holds) :
    Step m [] { m with modules } :=
  .elsewhere rfl rfl h

theorem Step.reroute {registry : Registry} (h : registry.slots = m.registry.slots) :
    Step m [] { m with registry } :=
  .elsewhere rfl h rfl

/-- Steps in order, with all that is remembered of them. -/
inductive Steps : Monitor → List Incident → Monitor → Prop where
  | refl (m : Monitor) : Steps m [] m
  | head {m m₁ m' : Monitor} {l l' : List Incident} (first : Step m l m₁) (rest : Steps m₁ l' m') :
      Steps m (l ++ l') m'

theorem Step.steps {l : List Incident} (h : Step m l m') : Steps m l m' := by
  simpa using Steps.head h (.refl m')

theorem Steps.trans {l l' : List Incident} (h : Steps m l m₁) (h' : Steps m₁ l' m') :
    Steps m (l ++ l') m' := by
  induction h with
  | refl m => exact h'
  | head first _ ih =>
    rw [List.append_assoc]
    exact .head first (ih h')

/-! ## Soundness -/

/-- The monitor obeys `config`, and all its parts fit together. -/
structure Sound (config : Config) (m : Monitor) : Prop where
  config_eq : m.config = config
  usable : config.check = .ok ()
  size : m.registry.slots.size = config.maxVms
  named : m.registry.WellNamed
  infos : m.modules.infos = ModuleTable.builtin
  swept : ∀ (id : VmId) (v : Vm), m.registry.get? id = some v → v.Swept

theorem infos_openForDevice (t : ModuleTable) (kind : DeviceKind) :
    (openForDevice t kind).val.2.infos = t.infos := by
  unfold openForDevice
  split
  · exact t.infos_openModule _ 0
  · rfl

theorem isBuiltin_moduleName {kind : DeviceKind} {name : String}
    (h : kind.moduleName? = some name) : ModuleTable.IsBuiltin name := by
  cases kind <;> cases h <;> decide

/-- The module of a device is there to be opened. -/
theorem openForDevice_ok {t : ModuleTable} (h : t.infos = ModuleTable.builtin) (kind : DeviceKind) :
    (openForDevice t kind).val.1 = .ok () := by
  unfold openForDevice
  split
  next name hname => exact ModuleTable.openModule_ok h (isBuiltin_moduleName hname)
  next => rfl

theorem val_closeForSession (t : ModuleTable) (name : String) :
    (closeForSession t name).val = (t.closeModule name).val.2 := by
  unfold closeForSession
  simp only [val_bind]
  split <;> rfl

theorem infos_closeForSession (t : ModuleTable) (name : String) :
    (closeForSession t name).val.infos = t.infos := by
  rw [val_closeForSession]
  exact t.infos_closeAll [name]

theorem infos_closeForDevice (t : ModuleTable) (kind : DeviceKind) :
    (closeForDevice t kind).val.infos = t.infos := by
  unfold closeForDevice
  split
  · exact infos_closeForSession t _
  · rfl

theorem infos_teardown (hs : List KillHandler) (v : Vm) (t : ModuleTable) :
    (hs.foldlM teardownStep (v, t)).val.2.infos = t.infos := by
  induction hs generalizing v t with
  | nil => rfl
  | cons h hs ih =>
    have hstep : (teardownStep (v, t) h).val.2.infos = t.infos := by
      cases h with
      | callback name => rfl
      | device device =>
        cases hd : v.device? device with
        | none => rw [teardownStep_gone hd]; rfl
        | some d =>
          rw [teardownStep_present hd]
          exact infos_closeForDevice t d.kind
    rw [List.foldlM_cons, val_bind, ← Prod.eta (teardownStep (v, t) h).val, ih, hstep]

theorem infos_bury (m : Monitor) (id : VmId) :
    (m.bury id).val.2.modules.infos = m.modules.infos := by
  cases h : m.registry.get? id with
  | none => rw [bury_dead h]; rfl
  | some v =>
    rw [bury_live h]
    exact (infos_closeForSession _ "vm").trans (infos_teardown _ _ _)

theorem infos_of_holds {t t' : ModuleTable} (h : t'.holds = t.holds) : t'.infos = t.infos := by
  rw [ModuleTable.infos_eq_holds, h, ← ModuleTable.infos_eq_holds]

theorem config_bury (m : Monitor) (id : VmId) : (m.bury id).val.2.config = m.config := by
  unfold bury
  split <;> rfl

theorem get?_of_slots {r r' : Registry} (h : r'.slots = r.slots) (id : VmId) :
    r'.get? id = r.get? id := by
  rw [Registry.get?, Registry.slot?, h]
  rfl

/-- A session is put back. -/
theorem Sound.set {modules : ModuleTable} {v' : Vm} (hm : Sound config m)
    (live : m.registry.get? id = some v) (hid : v'.id = v.id) (hswept : v'.Swept)
    (hinfos : modules.infos = m.modules.infos) :
    Sound config { m with modules, registry := m.registry.set id v' } where
  config_eq := hm.config_eq
  usable := hm.usable
  size := (Registry.size_set _ _ _).trans hm.size
  named := hm.named.set live hid
  infos := hinfos.trans hm.infos
  swept other w hw := by
    rw [Registry.get?_set live] at hw
    split at hw
    · exact Option.some.inj hw ▸ hswept
    · exact hm.swept other w hw

/-- **Each step** leaves a sound monitor sound. -/
theorem Sound.step {l : List Incident} (hm : Sound config m) (h : Step m l m') :
    Sound config m' := by
  cases h with
  | elsewhere hconfig hslots hholds =>
    refine ⟨hconfig.trans hm.config_eq, hm.usable, by rw [hslots, hm.size], ⟨?_, ?_⟩, ?_, ?_⟩
    · rw [hslots]; exact hm.named.size
    · rw [hslots]; exact hm.named.named
    · exact (infos_of_holds hholds).trans hm.infos
    · intro id v hv
      exact hm.swept id v (by rwa [get?_of_slots hslots] at hv)
  | work live keeps => exact hm.set live keeps.id (keeps.swept (hm.swept _ _ live)) rfl
  | @attach id v _ d modules live opens keeps =>
    refine hm.set live (keeps.id.trans rfl) (keeps.swept ((hm.swept _ _ live).attach d)) ?_
    rw [← infos_openForDevice m.modules d.kind, opens]
  | @retract id v _ d modules live opens keeps =>
    refine hm.set live (keeps.id.trans rfl) (keeps.swept ((hm.swept _ _ live).retract d)) ?_
    rw [infos_closeForDevice, ← infos_openForDevice m.modules d.kind, opens]
  | create created opens =>
    refine ⟨hm.config_eq, hm.usable, ?_, hm.named.create created, ?_, ?_⟩
    · obtain ⟨-, rfl⟩ := Registry.create_eq_ok hm.named.size created
      simpa [Registry.put] using hm.size
    · exact (congrArg (fun x => x.2.infos) opens).symm.trans
        ((ModuleTable.infos_openModule _ _ _).trans hm.infos)
    · intro other w hw
      rw [Registry.get?_create hm.named created] at hw
      split at hw
      · exact Option.some.inj hw ▸ Vm.swept_new _ _ _
      · exact hm.swept other w hw
  | @bury id v live =>
    refine ⟨(config_bury m id).trans hm.config_eq, hm.usable, ?_, ?_, ?_, ?_⟩
    · rw [registry_bury, Registry.slots_remove live]
      simpa [Registry.put] using hm.size
    · rw [registry_bury]
      exact hm.named.remove id
    · rw [infos_bury, hm.infos]
    · intro other w hw
      rw [registry_bury, Registry.get?_remove live] at hw
      split at hw
      · cases hw
      · exact hm.swept other w hw
  | opened opens =>
    refine ⟨hm.config_eq, hm.usable, hm.size, hm.named, ?_, hm.swept⟩
    exact (congrArg (fun x => x.2.infos) opens).symm.trans
      ((ModuleTable.infos_openModule _ _ _).trans hm.infos)
  | closed closes =>
    exact ⟨hm.config_eq, hm.usable, hm.size, hm.named,
      (ModuleTable.infos_closeAll _ _).trans hm.infos, hm.swept⟩

theorem Sound.steps {l : List Incident} (hm : Sound config m) (h : Steps m l m') :
    Sound config m' := by
  induction h with
  | refl m => exact hm
  | head first _ ih => exact ih (hm.step first)

end Monitor
end RealModeMonitor
