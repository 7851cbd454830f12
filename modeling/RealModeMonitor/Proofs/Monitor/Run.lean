import RealModeMonitor.Proofs.Monitor.Composition
import RealModeMonitor.Proofs.Monitor.Step

/-!
# Runs of a monitor, step by step

An operation is remembered by the incidents that its reply and its notes tell of (`incidents`). On
a sound monitor it is a sequence of steps with exactly these incidents (`remembered_perform`), and
so is a whole run with its `history` (`steps_run`).

`Evolves m x` is the form in which this is composed: `x` takes the monitor from `m` to where it
ends by steps, and nothing is remembered of them but the deaths that `x` tells of, each of which
is for a fault.

**Reachable monitors** are what a start and any operations lead to. They are sound
(`Reachable.sound`).
-/

namespace RealModeMonitor.Monitor

open Traced

variable {α β : Type} {config : Config} {m m₁ m' : Monitor} {id : VmId} {v : Vm} {op : Op}

/-! ## Usable configurations -/

theorem Config.check_eq_ok_iff :
    config.check = .ok () ↔
      (1 ≤ config.maxVms ∧ config.maxVms ≤ mostSlots) ∧ config.maxIoHandlers ≠ 0 ∧
        config.tickHz ≠ 0 ∧ leastGuestMemory ≤ config.guestMemory := by
  unfold Config.check
  repeat' split
  all_goals simp_all
  all_goals omega

/-! ## What is remembered -/

/-- What the reply tells of. -/
def answered : Op → Reply → List Incident
  | .create, .vm id => [.born id]
  | .openModule name _, .done => [.opened name]
  | .closeModule name, .done => [.closed name]
  | _, _ => []

/-- What the reply and the notes of an operation tell of. -/
def incidents (op : Op) (x : Traced (Reply × Monitor)) : List Incident :=
  answered op x.val.1 ++ x.deaths.map .died

/-- What is remembered of operations in order. -/
def history (m : Monitor) : List Op → List Incident
  | [] => []
  | op :: rest => incidents op (m.perform op) ++ history (m.perform op).val.2 rest

/-! ## Composition -/

/-- While `x` runs, the monitor goes from `m` to `m'`, and exactly the sessions at fault die. -/
structure EvolvesTo (m : Monitor) (x : Traced α) (m' : Monitor) : Prop where
  faults : x.faults = x.deaths
  steps : Steps m (x.deaths.map .died) m'

/-- The monitor goes from `m` to where `x` ends. -/
def Evolves (m : Monitor) (x : Traced (α × Monitor)) : Prop := EvolvesTo m x x.val.2

theorem EvolvesTo.of_steps {x : Traced α} (hx : x.Quiet) (h : Steps m [] m') : EvolvesTo m x m' :=
  ⟨by rw [hx.faults, hx.deaths], by rw [hx.deaths]; exact h⟩

/-- What leaves the monitor alone. -/
theorem EvolvesTo.quiet {x : Traced α} (hx : x.Quiet) (m : Monitor) : EvolvesTo m x m :=
  .of_steps hx (.refl m)

theorem evolves_pure (m : Monitor) (a : α) : Evolves m (pure (a, m)) := .quiet (quiet_pure _) m

theorem Step.evolves (h : Step m [] m') (a : α) : Evolves m (pure (a, m')) :=
  .of_steps (quiet_pure _) h.steps

theorem EvolvesTo.head {x : Traced α} (h : Step m [] m₁) (h' : EvolvesTo m₁ x m') :
    EvolvesTo m x m' := by
  have hsteps := h.steps.trans h'.steps
  rw [List.nil_append] at hsteps
  exact ⟨h'.faults, hsteps⟩

theorem EvolvesTo.bind {x : Traced α} {f : α → Traced β} (h : EvolvesTo m x m₁)
    (h' : EvolvesTo m₁ (f x.val) m') : EvolvesTo m (x >>= f) m' := by
  refine ⟨by rw [faults_bind, deaths_bind, h.faults, h'.faults], ?_⟩
  rw [deaths_bind, List.map_append]
  exact h.steps.trans h'.steps

theorem Evolves.bind {x : Traced α} {f : α → Traced (β × Monitor)} (h : EvolvesTo m x m₁)
    (h' : Evolves m₁ (f x.val)) : Evolves m (x >>= f) :=
  EvolvesTo.bind h h'

theorem Evolves.map {x : Traced (α × Monitor)} {f : α × Monitor → β × Monitor} (h : Evolves m x)
    (hf : ∀ y, (f y).2 = y.2) : Evolves m (f <$> x) := by
  refine ⟨by rw [faults_map, deaths_map, h.faults], ?_⟩
  rw [deaths_map, val_map, hf]
  exact h.steps

theorem composable_evolves : Composable @Evolves := ⟨evolves_pure, .bind⟩

theorem snd_ofResult (f : α → Reply) (x : Except MonitorError α × Monitor) :
    (Reply.ofResult f x).2 = x.2 := by
  obtain ⟨_ | _, _⟩ := x <;> rfl

theorem snd_ofShell (f : α → Reply) (x : Except ShellError α × Monitor) :
    (Reply.ofShell f x).2 = x.2 := by
  obtain ⟨_ | _, _⟩ := x <;> rfl

/-! ## Deaths -/

theorem evolves_killFaulted (h : m.registry.get? id = some v) :
    EvolvesTo m (m.killFaulted id) (m.killFaulted id).val := by
  have hdeaths : (m.killFaulted id).deaths = [id] := by
    unfold killFaulted
    rw [deaths_bind, deaths_bind, deaths_bury h]
    rfl
  have hfaults : (m.killFaulted id).faults = [id] := by
    unfold killFaulted
    rw [faults_bind, faults_bind, faults_bury]
    rfl
  refine ⟨hfaults.trans hdeaths.symm, ?_⟩
  rw [hdeaths]
  exact (Step.bury h).steps

theorem val_kill (m : Monitor) (id : VmId) : (m.kill id).val = (m.bury id).val.2 := by
  unfold kill
  simp only [val_bind]
  split <;> rfl

/-- A kill tells of the death of a live session. -/
theorem deaths_kill (m : Monitor) (id : VmId) :
    (m.kill id).deaths = if m.isAlive id then [id] else [] := by
  unfold kill
  cases h : m.registry.get? id with
  | none =>
    rw [bury_dead h, isAlive, Registry.isAlive, h]
    rfl
  | some v =>
    have halive : (m.bury id).val.1 = true := by rw [bury_live h]; rfl
    rw [deaths_bind, deaths_bury h, isAlive, Registry.isAlive, h]
    dsimp only
    rw [if_pos halive]
    rfl

theorem faults_kill (m : Monitor) (id : VmId) : (m.kill id).faults = [] := by
  unfold kill
  rw [faults_bind, faults_bury]
  dsimp only
  split <;> rfl

theorem steps_kill (m : Monitor) (id : VmId) :
    Steps m ((m.kill id).deaths.map .died) (m.kill id).val := by
  rw [deaths_kill, val_kill, isAlive, Registry.isAlive]
  cases h : m.registry.get? id with
  | none =>
    rw [bury_dead h]
    exact .refl m
  | some v => exact (Step.bury h).steps

/-! ## Work on one session -/

theorem evolves_onSession {work : Work} (m : Monitor) (id : VmId)
    (hkeeps : ∀ v : Vm, v.Keeps (work v).val.2)
    (hquiet : ∀ v, m.registry.get? id = some v → (work v).Quiet) :
    Evolves m (m.onSession id work) := by
  unfold onSession
  cases h : m.registry.get? id with
  | none => exact evolves_pure m _
  | some v =>
    have hwork : EvolvesTo m (work v) { m with registry := m.registry.set id (work v).val.2 } :=
      .of_steps (hquiet v h) (Step.work h (hkeeps v)).steps
    refine .bind hwork ?_
    dsimp only
    split
    · have hlive : (m.registry.set id (work v).val.2).get? id = some (work v).val.2 := by
        rw [Registry.get?_set h, if_pos rfl]
      exact .bind (evolves_killFaulted hlive) (evolves_pure _ _)
    · exact .bind (.quiet (quiet_pure _) _) (evolves_pure _ _)

theorem evolves_withVm {f : Vm → Traced (Except MonitorError α × Vm)} (m : Monitor) (id : VmId)
    (hkeeps : ∀ v : Vm, v.Keeps (f v).val.2)
    (hquiet : ∀ v, m.registry.get? id = some v → (f v).Quiet) :
    Evolves m (m.withVm id f) := by
  have h := @evolves_onSession (.replying (fun _ => .done) f) m id hkeeps
    fun v hv => .bind (hquiet v hv) (quiet_pure _)
  rw [← ofResult_withVm] at h
  refine ⟨?_, ?_⟩
  · simpa using h.faults
  · simpa [snd_ofResult] using h.steps

theorem evolves_inspectVm (m : Monitor) (id : VmId) (f : Vm → Except MonitorError α) :
    Evolves m (m.inspectVm id f) :=
  evolves_withVm m id .refl fun _ _ => quiet_pure _

theorem evolves_work {work : Work} (hm : Sound config m)
    (h : op.work? m.clock m.ioTrace = some (id, work)) : Evolves m (m.perform op) := by
  rw [perform_work h]
  exact evolves_onSession m id (keeps_work h) fun v hv =>
    (notes_work h (hm.named.id_of_get? hv)).ofVm.quiet

/-! ## Devices -/

theorem holds_openForDevice_error {t t' : ModuleTable} {kind : DeviceKind} {e : MonitorError}
    (h : (openForDevice t kind).val = (.error e, t')) : t'.holds = t.holds := by
  unfold openForDevice at h
  split at h
  · exact ModuleTable.holds_openModule_error h
  · cases (Prod.mk.inj h).1

theorem quiet_openForDevice (t : ModuleTable) (kind : DeviceKind) : (openForDevice t kind).Quiet :=
  (notes_openForDevice t kind).quiet_of_remarks

theorem quiet_closeForDevice (t : ModuleTable) (kind : DeviceKind) :
    (closeForDevice t kind).Quiet :=
  (notes_closeForDevice t kind).quiet_of_remarks

theorem evolves_attachDevice (m : Monitor) (id : VmId) (d : Device) :
    Evolves m (m.attachDevice id d) := by
  unfold attachDevice
  cases hlive : m.registry.get? id with
  | none => exact evolves_pure m _
  | some v =>
    refine .bind (.quiet (quiet_openForDevice m.modules d.kind) m) ?_
    rcases hopen : (openForDevice m.modules d.kind).val with ⟨e | _, modules⟩
    · exact (Step.recount (holds_openForDevice_error hopen)).evolves _
    · exact .of_steps (.bind (quiet_tell rfl) (quiet_pure _))
        (Step.attach hlive hopen (.refl _)).steps

theorem evolves_installDevice (m : Monitor) (id : VmId) (d : Device) :
    Evolves m (m.installDevice id d) := by
  unfold installDevice
  cases hlive : m.registry.get? id with
  | none => exact evolves_pure m _
  | some v =>
    refine .bind (.quiet (quiet_openForDevice m.modules d.kind) m) ?_
    rcases hopen : (openForDevice m.modules d.kind).val with ⟨e | _, modules⟩
    · exact (Step.recount (holds_openForDevice_error hopen)).evolves _
    · obtain ⟨io, -, hinstall⟩ | ⟨e, io, -, hinstall⟩ := v.install_cases d
      all_goals simp only [hinstall]
      · have hkeeps : (v.attach d).2.Keeps { (v.attach d).2 with io } := ⟨rfl, rfl, rfl⟩
        exact .of_steps (.bind (quiet_tell rfl) (quiet_pure _))
          (Step.attach hlive hopen hkeeps).steps
      · have hkeeps : ((v.attach d).2.detach (v.attach d).1).Keeps
            ({ (v.attach d).2 with io }.detach (v.attach d).1) := ⟨rfl, rfl, rfl⟩
        refine .bind (.quiet (quiet_closeForDevice modules d.kind) m) ?_
        exact .of_steps (.bind (quiet_tell rfl) (quiet_pure _))
          (Step.retract hlive hopen hkeeps).steps

theorem evolves_installCmos (m : Monitor) (id : VmId) : Evolves m (m.installCmos id) :=
  composable_evolves.installCmos (m.evolves_inspectVm id _) fun _ _ => evolves_installDevice _ id _

theorem evolves_installStandardDevices (m : Monitor) (id : VmId) :
    Evolves m (m.installStandardDevices id) :=
  composable_evolves.installStandardDevices (evolves_installDevice · id _)
    (evolves_installDevice · id _) (evolves_installDevice · id _) (evolves_installCmos · id) m

/-! ## Ticks and host lines -/

theorem evolves_tickSession (clock : Clock) (m : Monitor) (id : VmId) :
    EvolvesTo m (tickSession clock m.registry id)
      { m with registry := (tickSession clock m.registry id).val } := by
  unfold tickSession
  cases hlive : m.registry.get? id with
  | none => exact .quiet (quiet_pure _) m
  | some v =>
    refine .of_steps (.bind (v.notes_tick clock).ofVm.quiet (quiet_pure _)) ?_
    exact (Step.work hlive (v.keeps_tick clock)).steps

theorem evolves_tickSessions (clock : Clock) (ids : List VmId) (m : Monitor) :
    EvolvesTo m (ids.foldlM (tickSession clock) m.registry)
      { m with registry := (ids.foldlM (tickSession clock) m.registry).val } := by
  induction ids generalizing m with
  | nil => exact .quiet (quiet_pure _) m
  | cons id ids ih =>
    rw [List.foldlM_cons]
    exact .bind (evolves_tickSession clock m id)
      (ih { m with registry := (tickSession clock m.registry id).val })

theorem evolves_killAllFaulted (ids : List VmId) (hids : ids.Nodup)
    (halive : ∀ id ∈ ids, m.registry.isAlive id = true) :
    EvolvesTo m (ids.foldlM killFaulted m) (ids.foldlM killFaulted m).val := by
  induction ids generalizing m with
  | nil => exact .quiet (quiet_pure _) m
  | cons id ids ih =>
    obtain ⟨hid, hids⟩ := List.nodup_cons.1 hids
    obtain ⟨v, hv⟩ := Option.isSome_iff_exists.1 (halive id List.mem_cons_self)
    rw [List.foldlM_cons]
    refine .bind (evolves_killFaulted hv) (ih hids fun other hother => ?_)
    have hne : other ≠ id := fun heq => hid (heq ▸ hother)
    rw [registry_killFaulted, Registry.isAlive_remove hv,
      halive other (List.mem_cons_of_mem _ hother)]
    simpa using hne

theorem faultedIds_sublist (r : Registry) : (faultedIds r).Sublist r.ids :=
  List.filter_sublist.map Vm.id

theorem evolves_timerTick (hm : Sound config m) (n : UInt32) :
    EvolvesTo m (m.timerTick n) (m.timerTick n).val := by
  have hclock : Step m [] (m.advanceClock n) := .elsewhere rfl rfl rfl
  have hticks := evolves_tickSessions (m.advanceClock n).clock m.vmIds (m.advanceClock n)
  have hnamed := ((hm.step hclock).steps hticks.steps).named
  refine .head hclock (.bind hticks (evolves_killAllFaulted _ ?_ ?_))
  · exact hnamed.nodup_ids.sublist (faultedIds_sublist _)
  · intro id hid
    exact hnamed.mem_ids_iff.1 ((faultedIds_sublist _).subset hid)

theorem slots_route (r : Registry) (irq : UInt8) (owner : Option VmId) :
    (r.route irq owner).2.slots = r.slots := by
  unfold Registry.route
  split <;> rfl

theorem evolves_grabIrq (m : Monitor) (id : VmId) (irq : UInt8) : Evolves m (m.grabIrq id irq) := by
  unfold grabIrq
  split
  · split
    · exact evolves_pure m _
    · split
      next => exact evolves_pure m _
      next registry hroute =>
        have hslots := slots_route m.registry irq (some id)
        rw [hroute] at hslots
        exact .bind (.quiet (quiet_tell rfl) m) ((Step.reroute hslots).evolves _)
  · exact evolves_pure m _

/-- Where a host line leads: to nobody, to work on its owner, or to an owner without a controller,
and then nothing is done. -/
theorem hardwareIrq_cases (hm : Sound config m) (irq : UInt8) :
    (m.registry.irqOwner? irq = none ∧ m.hardwareIrq irq = pure (.ok none, m)) ∨
      ∃ id, m.registry.irqOwner? irq = some id ∧
        (m.hardwareIrq irq = (fun y => (y.1.map some, y.2)) <$> m.raiseIrq id irq ∨
          ∃ v, m.registry.get? id = some v ∧ v.controller? = none ∧
            m.hardwareIrq irq = pure (.error (.noSuchDevice id .pic), m)) := by
  unfold hardwareIrq
  cases howner : m.registry.irqOwner? irq with
  | none => exact .inl ⟨rfl, rfl⟩
  | some id =>
    refine .inr ⟨id, rfl, ?_⟩
    cases live : m.registry.get? id with
    | none => exact .inl (by simp only [live, raiseIrq, withVm, map_pure, Except.map])
    | some v =>
      cases hc : v.controller? with
      | none => exact .inr ⟨v, rfl, hc, by simp only [live, hc]⟩
      | some found =>
        obtain ⟨device, c⟩ := found
        have hid : v.id = id := hm.named.id_of_get? live
        left
        simp only [raiseIrq, withVm, live, raiseOn, Vm.raise, hc, hid, map_bind, bind_assoc,
          pure_bind]
        refine congrArg _ (funext fun x => ?_)
        obtain ⟨_ | _, c', guest⟩ := x
        all_goals
          by_cases hfaulted : guest.faulted = true <;>
            simp [hfaulted, Vm.setDevice, Except.map]

theorem evolves_hardwareIrq (hm : Sound config m) (irq : UInt8) :
    Evolves m (m.hardwareIrq irq) := by
  obtain ⟨-, h⟩ | ⟨id, -, h | ⟨_, -, -, h⟩⟩ := hardwareIrq_cases hm irq
  all_goals rw [h]
  case inl | inr.inr => exact evolves_pure m _
  refine Evolves.map (evolves_withVm m id (fun v => keeps_raiseOn irq) fun v hv => ?_) fun _ => rfl
  exact (notes_raiseOn irq).ofVm.quiet

/-! ## Shell commands -/

theorem evolves_controllerReport (m : Monitor) (id : VmId) :
    Evolves m (m.controllerReport id) := by
  refine .bind (m.evolves_inspectVm id _) ?_
  dsimp only
  split <;> exact evolves_pure _ _

theorem evolves_timerReport (m : Monitor) (id : VmId) : Evolves m (m.timerReport id) := by
  refine .bind (evolves_withVm m id (fun v => ?_) fun v _ => ?_) ?_
  · have h := v.keeps_syncTimer m.clock
    simp only [val_bind, val_pure]
    split <;> exact h
  · exact .bind (v.notes_syncTimer m.clock).ofVm.quiet (quiet_pure _)
  · dsimp only
    split <;> exact evolves_pure _ _

theorem evolves_runShell (m : Monitor) (line : String) : Evolves m (m.runShell line) := by
  have htrace : ∀ (m : Monitor) on, Step m [] (m.setIoTrace on) := fun _ _ =>
    .elsewhere rfl rfl rfl
  exact composable_evolves.runShell evolves_controllerReport evolves_timerReport
    (fun m r on => (htrace m on).evolves r) m line

/-! ## Starting a session -/

theorem memory_allocate (h : config.check = .ok ()) :
    ∃ memory, Memory.allocate config.guestMemory = .ok memory := by
  have hsize : config.guestMemory ≠ 0 := by
    have hleast := (Config.check_eq_ok_iff.1 h).2.2.2
    unfold leastGuestMemory at hleast
    omega
  rw [Memory.allocate, if_neg hsize]
  exact ⟨_, rfl⟩

/-- A session starts if a slot is free, and only then. -/
theorem createVm_cases (hm : Sound config m) :
    (m.registry.ids.length = config.maxVms ∧ m.createVm = pure (.error (.exhausted .vmSlot), m)) ∨
      m.registry.ids.length ≠ config.maxVms ∧ m.createVm.Quiet ∧
        ∃ (id : VmId) (memory : Memory) (registry : Registry) (modules : ModuleTable),
          m.registry.create memory m.config.maxIoHandlers = .ok (id, registry) ∧
          (m.modules.openModule "vm" 0).val = (.ok (), modules) ∧
          m.createVm.val = (.ok id, { m with registry, modules }) := by
  obtain ⟨memory, hmemory⟩ := memory_allocate hm.usable
  rw [← hm.config_eq] at hmemory
  have hfull := Registry.create_eq_error_iff m.registry memory m.config.maxIoHandlers
  rw [hm.size] at hfull
  cases hcreate : m.registry.create memory m.config.maxIoHandlers with
  | error e =>
    obtain rfl := Registry.eq_exhausted_of_create hcreate
    refine .inl ⟨hfull.1 hcreate, ?_⟩
    simp only [createVm, hmemory, hcreate]
  | ok created =>
    obtain ⟨id, registry⟩ := created
    have hopen := ModuleTable.openModule_ok hm.infos (show ModuleTable.IsBuiltin "vm" by decide)
    have hquiet := (ModuleTable.notes_openModule m.modules "vm" 0).quiet_of_remarks
    obtain ⟨modules, hval⟩ :
        ∃ modules, (m.modules.openModule "vm" 0).val = (.ok (), modules) := ⟨_, Prod.ext hopen rfl⟩
    have hfree : m.registry.ids.length ≠ config.maxVms := fun h => by simp [hfull.2 h] at hcreate
    refine .inr ⟨hfree, ?_, id, memory, registry, modules, hcreate, hval, ?_⟩
    all_goals simp only [createVm, hmemory, hcreate]
    · refine .bind hquiet ?_
      rw [hval]
      exact .bind (quiet_tell rfl) (quiet_pure _)
    · rw [val_bind, hval]
      rfl

/-! ## Every operation -/

/-- What an operation does is what is remembered of it, and the sessions that die are the one it
kills and those at fault. -/
structure Remembered (m : Monitor) (op : Op) : Prop where
  cause : ∀ id, id ∈ (m.perform op).deaths ↔
    (op = .kill id ∧ m.isAlive id = true) ∨ .guestFaulted id ∈ (m.perform op).diagnostics
  steps : Steps m (incidents op (m.perform op)) (m.perform op).val.2

theorem remembered_of_faults (hop : ∀ id, op ≠ .kill id)
    (hfaults : (m.perform op).faults = (m.perform op).deaths)
    (hsteps : Steps m (incidents op (m.perform op)) (m.perform op).val.2) : Remembered m op where
  cause id := by
    rw [← hfaults, mem_faults_iff]
    simp [hop id]
  steps := hsteps

theorem remembered_of_evolves (hop : ∀ id, op ≠ .kill id) (ha : ∀ r, answered op r = [])
    (h : Evolves m (m.perform op)) : Remembered m op := by
  refine remembered_of_faults hop h.faults ?_
  rw [incidents, ha, List.nil_append]
  exact h.steps

/-- An operation at which nobody dies. -/
theorem remembered_of_quiet (hop : ∀ id, op ≠ .kill id) (hx : (m.perform op).Quiet)
    (h : Steps m (answered op (m.perform op).val.1) (m.perform op).val.2) : Remembered m op := by
  refine remembered_of_faults hop (by rw [hx.faults, hx.deaths]) ?_
  rw [incidents, hx.deaths]
  simpa using h

theorem remembered_create (hm : Sound config m) : Remembered m .create := by
  obtain ⟨-, hval⟩ | ⟨-, hquiet, id, memory, registry, modules, hcreated, hopen, hval⟩ :=
    createVm_cases hm
  · refine remembered_of_quiet nofun ?_ ?_
    all_goals simp only [perform, hval]
    · exact (quiet_pure _).map _
    · exact .refl m
  · refine remembered_of_quiet nofun (hquiet.map _) ?_
    simp only [perform, val_map, hval]
    exact (Step.create hcreated hopen).steps

theorem remembered_kill (m : Monitor) (id : VmId) : Remembered m (.kill id) := by
  have hdeaths : (m.perform (.kill id)).deaths = (m.kill id).deaths := by
    simp only [perform, deaths_bind]
    exact List.append_nil _
  have hfaults : (m.perform (.kill id)).faults = [] := by
    simp only [perform, faults_bind, faults_kill]
    rfl
  refine ⟨fun other => ?_, ?_⟩
  · rw [← mem_faults_iff, hfaults, hdeaths, deaths_kill]
    constructor
    · intro hother
      split at hother
      next halive =>
        obtain rfl := List.mem_singleton.1 hother
        exact .inl ⟨rfl, halive⟩
      next => cases hother
    · rintro (⟨hop, halive⟩ | hother)
      · obtain rfl := Op.kill.inj hop
        rw [if_pos halive]
        exact List.mem_singleton_self _
      · cases hother
  · rw [incidents, hdeaths]
    exact m.steps_kill id

theorem remembered_openModule (m : Monitor) (name : String) (least : UInt32) :
    Remembered m (.openModule name least) := by
  have hquiet : (m.openModule name least).Quiet :=
    .bind (ModuleTable.notes_openModule m.modules name least).quiet_of_remarks (quiet_pure _)
  refine remembered_of_quiet nofun (hquiet.map _) ?_
  simp only [perform, openModule, val_map, val_bind, val_pure]
  rcases hopen : (m.modules.openModule name least).val with ⟨e | _, modules⟩
  · exact (Step.recount (ModuleTable.holds_openModule_error hopen)).steps
  · exact (Step.opened hopen).steps

theorem remembered_closeModule (hm : Sound config m) (name : String) :
    Remembered m (.closeModule name) := by
  have hquiet : (m.closeModule name).Quiet :=
    .bind (ModuleTable.notes_closeAll m.modules [name]).quiet_of_remarks (quiet_pure _)
  refine remembered_of_quiet nofun (hquiet.map _) ?_
  simp only [perform, closeModule, val_map, val_bind, val_pure]
  rcases hclose : (m.modules.closeModule name).val with ⟨e | _, modules⟩
  · obtain rfl : modules = m.modules := ModuleTable.closeModule_error hm.infos hclose
    exact .refl m
  · have hstep : Step m [.closed name] _ := .closed (by rw [hclose])
    rw [hclose] at hstep
    exact hstep.steps

theorem evolves_expungeModule (m : Monitor) (name : String) : Evolves m (m.expungeModule name) :=
  .bind (.quiet (ModuleTable.notes_expunge m.modules name).quiet_of_remarks m)
    ((Step.recount (m.modules.holds_expunge name)).evolves _)

theorem step_removeIoHandler (m : Monitor) (id : VmId) (range : PortRange) :
    Step m [] (m.removeIoHandler id range) := by
  unfold removeIoHandler
  cases h : m.registry.get? id with
  | none => exact .elsewhere rfl rfl rfl
  | some v => exact .work h ⟨rfl, rfl, rfl⟩

theorem step_removeService (m : Monitor) (id : VmId) (number : UInt8) :
    Step m [] (m.removeService id number) := by
  unfold removeService
  cases h : m.registry.get? id with
  | none => exact .elsewhere rfl rfl rfl
  | some v => exact .work h ⟨rfl, rfl, rfl⟩

theorem step_addShellCommands (m : Monitor) (batch : List ShellCommand) :
    Step m [] (m.addShellCommands batch).2 := by
  unfold addShellCommands
  split <;> exact .elsewhere rfl rfl rfl

/-- Operations at which nothing happens to any session. -/
def Op.isIdle : Op → Bool
  | .isAlive _ | .vmIds | .vmForTask _ | .summaries | .ioHandler _ _ | .serviceName _ _
  | .setIoTrace _ | .ioTrace | .advanceClock _ | .now | .openModule _ _ | .closeModule _
  | .expungeModule _ | .modules | .addShellCommands _ | .shellCommands => true
  | _ => false

theorem registry_of_idle (h : op.isIdle = true) (m : Monitor) :
    (m.perform op).val.2.registry = m.registry := by
  cases op <;> cases h
  case openModule | closeModule | expungeModule =>
    rw [perform, val_map, snd_ofResult]
    rfl
  case addShellCommands batch =>
    rw [perform, val_pure, snd_ofShell, addShellCommands]
    split <;> rfl
  all_goals rfl

theorem notes_of_idle (h : op.isIdle = true) (m : Monitor) :
    (m.perform op).Only Note.IsRemark := by
  cases op <;> cases h
  case openModule =>
    exact .bind (.bind (ModuleTable.notes_openModule _ _ _) (only_pure _)) (only_pure _)
  case closeModule =>
    exact .bind (.bind (ModuleTable.notes_closeAll _ _) (only_pure _)) (only_pure _)
  case expungeModule =>
    exact .bind (.bind (ModuleTable.notes_expunge _ _) (only_pure _)) (only_pure _)
  all_goals exact only_pure _

/-- Work on one session. -/
theorem remembered_work {work : Work} (hm : Sound config m)
    (h : op.work? m.clock m.ioTrace = some (id, work)) : Remembered m op := by
  refine remembered_of_evolves ?_ ?_ (evolves_work hm h)
  · rintro other rfl
    cases h
  · intro r
    cases op <;> cases h <;> rfl

/-- An operation that is not work on one session. -/
theorem remembered_other {clock : Clock} {ioTrace : Bool} (hm : Sound config m)
    (h : op.work? clock ioTrace = none) : Remembered m op := by
  cases op <;> cases h
  case create => exact remembered_create hm
  case kill id => exact m.remembered_kill id
  case openModule name least => exact m.remembered_openModule name least
  case closeModule name => exact remembered_closeModule hm name
  all_goals refine remembered_of_evolves nofun (fun _ => rfl) ?_
  case isAlive | vmIds | vmForTask | summaries | ioHandler | ioTrace | serviceName | now | modules |
      shellCommands =>
    exact evolves_pure m _
  case timerTick n => exact .bind (evolves_timerTick hm n) (evolves_pure _ _)
  case attach id d => exact (m.evolves_attachDevice id d).map (snd_ofResult _)
  case install id d => exact (m.evolves_installDevice id d).map (snd_ofResult _)
  case installPic id => exact (m.evolves_installDevice id _).map (snd_ofResult _)
  case installPit id => exact (m.evolves_installDevice id _).map (snd_ofResult _)
  case installDma id => exact (m.evolves_installDevice id _).map (snd_ofResult _)
  case installCmos id => exact (m.evolves_installCmos id).map (snd_ofResult _)
  case installStandard id => exact (m.evolves_installStandardDevices id).map (snd_ofResult _)
  case removeIoHandler id range => exact (m.step_removeIoHandler id range).evolves _
  case removeService id number => exact (m.step_removeService id number).evolves _
  case setIoTrace on =>
    have h : Step m [] (m.setIoTrace on) := .elsewhere rfl rfl rfl
    exact h.evolves _
  case advanceClock n =>
    have h : Step m [] (m.advanceClock n) := .elsewhere rfl rfl rfl
    exact h.evolves _
  case releaseIrq irq => exact (Step.reroute (slots_route _ irq none)).evolves _
  case grabIrq id irq => exact (m.evolves_grabIrq id irq).map (snd_ofResult _)
  case hardwareIrq irq => exact (evolves_hardwareIrq hm irq).map (snd_ofResult _)
  case expungeModule name => exact (m.evolves_expungeModule name).map (snd_ofResult _)
  case runShell line => exact (m.evolves_runShell line).map (snd_ofShell _)
  case addShellCommands batch =>
    have h := m.step_addShellCommands batch
    rw [← snd_ofShell] at h
    exact h.evolves _

/-- **Every operation** is a sequence of steps, remembered by its reply and its notes. -/
theorem remembered_perform (hm : Sound config m) (op : Op) : Remembered m op := by
  cases hwork : op.work? m.clock m.ioTrace with
  | some found => exact remembered_work hm hwork
  | none => exact remembered_other hm hwork

/-! ## Runs -/

/-- **Every run** is a sequence of steps, remembered by its history. -/
theorem steps_run (hm : Sound config m) (ops : List Op) :
    Steps m (history m ops) (m.run ops).val.2 := by
  induction ops generalizing m with
  | nil => exact .refl m
  | cons op ops ih =>
    have hop := (remembered_perform hm op).steps
    exact hop.trans (ih (hm.steps hop))

theorem start_eq_ok (h : (start config).val = .ok m) :
    config.check = .ok () ∧
      m = { config, clock := { hz := config.tickHz }, registry := .ofSize config.maxVms } := by
  unfold start at h
  split at h
  · cases h
  · next hcheck => exact ⟨hcheck, (Except.ok.inj h).symm⟩

theorem get?_ofSize (n : Nat) (id : VmId) : (Registry.ofSize n).get? id = none := by
  cases h : (Registry.ofSize n).get? id with
  | none => rfl
  | some v =>
    have hslot := Registry.get?_eq_some_iff.1 h
    simp [Registry.ofSize, Array.getElem?_replicate] at hslot

theorem sound_start (h : (start config).val = .ok m) : Sound config m := by
  obtain ⟨hcheck, rfl⟩ := start_eq_ok h
  have hslots := (Config.check_eq_ok_iff.1 hcheck).1.2
  have hroom : (Registry.ofSize config.maxVms).slots.size ≤ mostSlots := by
    simpa [Registry.ofSize] using hslots
  refine ⟨rfl, hcheck, by simp [Registry.ofSize], ⟨hroom, ?_⟩, rfl, ?_⟩
  · intro i s v hs hv
    obtain ⟨-, rfl⟩ : i < config.maxVms ∧ {} = s := by
      simpa [Registry.ofSize, Array.getElem?_replicate] using hs
    cases hv
  · intro id v hv
    rw [get?_ofSize] at hv
    cases hv

/-- What a start with `config` and operations lead to. -/
def Reachable (config : Config) (m : Monitor) : Prop :=
  ∃ (m₀ : Monitor) (ops : List Op), (start config).val = .ok m₀ ∧ m = (m₀.run ops).val.2

/-- The monitor that starts with a usable configuration. -/
def started (config : Config) : Monitor :=
  { config, clock := { hz := config.tickHz }, registry := .ofSize config.maxVms }

theorem reachable_run (hcheck : config.check = .ok ()) (ops : List Op) :
    Reachable config ((started config).run ops).val.2 := by
  refine ⟨started config, ops, ?_, rfl⟩
  rw [start, hcheck]
  rfl

theorem Reachable.sound (h : Reachable config m) : Sound config m := by
  obtain ⟨m₀, ops, hstart, rfl⟩ := h
  have hm := sound_start hstart
  exact hm.steps (steps_run hm ops)

end RealModeMonitor.Monitor
