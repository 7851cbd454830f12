import RealModeMonitor.Proofs.Monitor.Outcome

/-!
# Teardowns

**Theorem (`torn_down_once`).** A session that is dead after a run died at one of its operations.
There it was torn down: one step for each kill handler that was registered on it, in the order of
their registration. The host lines that it owned are nobody's then, and nothing is heard of it in
the rest of the run.

The steps are known from the replies to the operations up to its death (`registered`). An install
that fails registers none. Those for devices are for the devices that are there, in the order in
which they were attached. Those of collaborators are all that were ever registered on the session
(`enrolled`).

A name may be given to a new session after 2³² others had its slot, so the run is one in which the
name is not given again. The session that gets it then has a run of its own.
-/

namespace RealModeMonitor

open Traced

variable {α : Type} {config : Config} {b id : VmId} {v : Vm}

/-! ## Handlers of collaborators -/

/-- The collaborator's handler that is called. -/
def Event.handler? : Event → Option String
  | killHandler name _ => some name
  | _ => none

/-- The collaborator's handler that is registered. -/
def KillHandler.callback? : KillHandler → Option String
  | callback name => some name
  | device _ => none

/-- The collaborators' handlers that ran, in order. -/
def Traced.handlers (b : VmId) (x : Traced α) : List String := (x.calls b).filterMap Event.handler?

/-- Calling a handler is a rite. -/
theorem Traced.handlers_eq_rites (b : VmId) (x : Traced α) :
    x.handlers b = (x.rites b).filterMap fun n => n.event?.bind Event.handler? := by
  rw [handlers, calls_eq_heard, rites, List.filterMap_filterMap, List.filterMap_filter]
  refine List.filterMap_congr fun n _ => ?_
  cases n with
  | diagnostic d => exact (ite_self none).symm
  | event e =>
    cases e with
    | killHandler name vm => rfl
    | device | timerExpired | serviceCalled => exact (ite_self none).symm

theorem Vm.handlers_rites (v : Vm) :
    v.rites.filterMap (fun n => n.event?.bind Event.handler?) =
      v.killHandlers.filterMap KillHandler.callback? := by
  rw [rites, List.filterMap_flatMap, List.filterMap_eq_flatMap_toList]
  refine List.flatMap_congr fun h _ => ?_
  cases h with
  | callback name => rfl
  | device id =>
    rw [rite]
    cases v.device? id with
    | none => rfl
    | some d => cases d <;> rfl

/-- No step of a teardown is empty. -/
theorem Vm.Swept.rite_ne_nil (hv : v.Swept) {h : KillHandler} (hh : h ∈ v.killHandlers) :
    v.rite h ≠ [] := by
  cases h with
  | callback name => exact List.cons_ne_nil _ _
  | device device =>
    have hteardown : device ∈ v.teardowns := List.mem_filterMap.2 ⟨_, hh, rfl⟩
    obtain ⟨d, hd⟩ := mem_deviceIds_iff.1 (hv ▸ hteardown)
    rw [rite, hd]
    cases d <;> exact List.cons_ne_nil _ _

namespace Monitor

variable {m : Monitor} {op : Op} {ops during after : List Op}

/-- The handlers that collaborators registered on session `id`, in order. -/
def enrolled (id : VmId) (ops : List Op) (replies : List Reply) : List String :=
  (ops.zip replies).filterMap fun
    | (.addKillHandler vm name, .done) => if vm = id then some name else none
    | _ => none

theorem enrolled_cons (op : Op) (ops : List Op) (r : Reply) (rs : List Reply) :
    enrolled id (op :: ops) (r :: rs) = enrolled id [op] [r] ++ enrolled id ops rs := by
  rw [enrolled, enrolled, enrolled, ← List.filterMap_append]
  rfl

theorem callbacks_attached (m : Monitor) (ops : List Op) :
    (m.attached ops).filterMap KillHandler.callback? = [] := by
  induction ops generalizing m with
  | nil => rfl
  | cons op ops ih =>
    rw [attached]
    split
    · exact ih _
    · rfl

theorem reply_addKillHandler (hm : Settled config m) (c : VmId) (name : String) :
    (m.perform (.addKillHandler c name)).val.1 =
      if m.isAlive c then .done else .failed (.noSuchVm c) := by
  have hperform : m.perform (.addKillHandler c name) = m.onSession c _ := perform_work rfl
  rw [hperform, onSession, isAlive, Registry.isAlive]
  cases live : m.registry.get? c with
  | none => rfl
  | some v => simp [Work.updating, hm.unfaulted c v live]

theorem enrolled_perform (hm : Settled config m) (op : Op) (id : VmId) :
    enrolled id [op] [(m.perform op).val.1] =
      (if op.subject? = some id then m.registers op else []).filterMap KillHandler.callback? := by
  cases op
  case addKillHandler c name =>
    rw [reply_addKillHandler hm, registers, Op.subject?]
    by_cases hid : c = id
    · cases halive : m.isAlive c <;> simp [enrolled, hid, KillHandler.callback?]
    · cases halive : m.isAlive c <;> simp [enrolled, hid]
  all_goals
    split
    · exact (m.callbacks_attached _).symm
    · rfl

theorem enrolled_run (hm : Settled config m) (ops : List Op) (id : VmId) :
    enrolled id ops (m.run ops).val.1 =
      (registered id m ops).filterMap KillHandler.callback? := by
  induction ops generalizing m with
  | nil => rfl
  | cons op ops ih =>
    rw [val_run_cons, enrolled_cons, enrolled_perform hm, ih (settled_perform hm op), registered,
      List.filterMap_append]

/-! ## Runs in parts -/

theorem rites_run_append (m : Monitor) (ops ops' : List Op) (id : VmId) :
    (m.run (ops ++ ops')).rites id =
      (m.run ops).rites id ++ ((m.run ops).val.2.run ops').rites id := by
  induction ops generalizing m with
  | nil => rfl
  | cons op ops ih =>
    rw [List.cons_append, rites_run_cons, ih, rites_run_cons, List.append_assoc]
    rfl

theorem registered_append (m : Monitor) (ops ops' : List Op) (id : VmId) :
    registered id m (ops ++ ops') =
      registered id m ops ++ registered id (m.run ops).val.2 ops' := by
  induction ops generalizing m with
  | nil => rfl
  | cons op ops ih =>
    rw [List.cons_append, registered, ih, registered, List.append_assoc]
    rfl

theorem newcomers_run_append (m : Monitor) (ops ops' : List Op) :
    newcomers (m.run (ops ++ ops')).val.1 =
      newcomers (m.run ops).val.1 ++ newcomers ((m.run ops).val.2.run ops').val.1 := by
  induction ops generalizing m with
  | nil => rfl
  | cons op ops ih =>
    rw [List.cons_append, newcomers_run_cons, ih, newcomers_run_cons, List.append_assoc]
    rfl

/-- Who is alive before a run and dead after it dies at one of the operations. -/
theorem exists_death (halive : m.isAlive id = true) (hdead : (m.run ops).val.2.isAlive id = false) :
    ∃ during op after, ops = during ++ op :: after ∧ livesThrough id m during = true ∧
      ((m.run during).val.2.perform op).val.2.isAlive id = false := by
  induction ops generalizing m with
  | nil => cases hdead.symm.trans halive
  | cons op ops ih =>
    cases hnext : (m.perform op).val.2.isAlive id with
    | false => exact ⟨[], op, ops, rfl, halive, hnext⟩
    | true =>
      obtain ⟨during, last, after, rfl, hlives, hdies⟩ := ih hnext hdead
      refine ⟨op :: during, last, after, rfl, ?_, hdies⟩
      rw [livesThrough, halive, hlives]
      rfl

/-! ## Host lines -/

/-- Sessions that die make way for nobody. -/
theorem thins_of_death (hm : Settled config m) (halive : m.isAlive id = true)
    (hdead : (m.perform op).val.2.isAlive id = false) :
    m.registry.Thins (m.perform op).val.2.registry := by
  have hstays : ¬Misses id m (m.perform op) := by
    intro hmisses
    have hsame : (m.perform op).val.2.isAlive id = m.isAlive id :=
      congrArg Option.isSome hmisses.same
    cases hdead.symm.trans (hsame.trans halive)
  cases hpasses : op.passes with
  | true => exact (passes_perform hm hpasses).thins
  | false =>
    obtain rfl | ⟨c, rfl⟩ | ⟨c, irq, rfl⟩ | ⟨irq, rfl⟩ := Op.cases_of_passes hpasses
    · exact absurd (misses_create hm (ne_newcomer hm halive)) hstays
    · exact (passes_kill hm c).thins
    · exact absurd ((grabIrq_outcome hm c irq).2.1 id) hstays
    · exact absurd ((releaseIrq_outcome hm irq).2 id) hstays

/-- A host line keeps its owner exactly if that lives on. -/
theorem Settled.irqOwner?_of_thins {r : Registry} (hm : Settled config m)
    (hthins : m.registry.Thins r) (irq : UInt8) :
    r.irqOwner? irq = (m.registry.irqOwner? irq).filter r.isAlive := by
  rw [hthins.irqOwner?]
  cases howner : m.registry.irqOwner? irq with
  | none => rfl
  | some owner =>
    have halive := hm.owned irq owner howner
    simp [Option.filter, Registry.stays, halive]

/-! ## The theorem -/

/-- A session that lived through some operations from `m` on, and is torn down as `v` at the next.
-/
structure TornDown (id : VmId) (m : Monitor) (during : List Op) (op : Op) (after : List Op)
    (v : Vm) : Prop where
  lives : livesThrough id m during = true
  session : (m.run during).val.2.registry.get? id = some v
  dies : ((m.run during).val.2.perform op).val.2.isAlive id = false
  /-- It holds the handlers that were registered on it, in order. -/
  handlers : v.killHandlers = registered id m during
  /-- Those for devices are for the devices that are there, as they were attached. -/
  devices : v.killHandlers.filterMap KillHandler.device? = v.deviceIds ∧
    v.deviceIds.Pairwise (· < ·) ∧ ∀ device, device ∈ v.deviceIds ↔ v.hasDevice device = true
  /-- At its death there is one step for each handler, in order. -/
  steps : ((m.run during).val.2.perform op).rites id = v.killHandlers.flatMap v.rite ∧
    ∀ h ∈ v.killHandlers, v.rite h ≠ []
  /-- There are no other steps of a teardown of it in the run. -/
  once : (m.run (during ++ op :: after)).rites id = v.killHandlers.flatMap v.rite
  /-- The collaborators' handlers that run are those that were registered in the run. -/
  callbacks : (m.run (during ++ op :: after)).handlers id =
    enrolled id (during ++ op :: after) (m.run (during ++ op :: after)).val.1
  /-- Host lines lose their owners exactly if these died. -/
  hostLines : ∀ irq, ((m.run during).val.2.perform op).val.2.registry.irqOwner? irq =
    ((m.run during).val.2.registry.irqOwner? irq).filter
      ((m.run during).val.2.perform op).val.2.isAlive
  /-- Nothing is heard of it afterwards. -/
  silence : (((m.run during).val.2.perform op).val.2.run after).heard id = []

theorem tornDown (hm : Settled config m)
    (hnone : ∀ v, m.registry.get? id = some v → v.killHandlers = [])
    (hlives : livesThrough id m during = true)
    (hdies : ((m.run during).val.2.perform op).val.2.isAlive id = false)
    (hnew : id ∉ newcomers (((m.run during).val.2.perform op).val.2.run after).val.1) :
    ∃ v, TornDown id m during op after v := by
  obtain ⟨v₀, v, hv₀, hv, hcourse, hquiet⟩ := course_run hm hlives
  have hbefore := settled_run hm during
  have halive : (m.run during).val.2.isAlive id = true := Option.isSome_iff_exists.2 ⟨v, hv⟩
  have hdead : ((m.run during).val.2.perform op).val.2.registry.get? id = none := by
    simpa [isAlive, Registry.isAlive] using hdies
  obtain ⟨_, hfate, -⟩ := fate_perform hbefore op fun hop => hop ▸ ne_newcomer hbefore halive
  obtain ⟨hrites, hlast⟩ := hfate.of_death hv hdead
  obtain ⟨hsilent, hrest⟩ := dead_run (settled_perform hbefore op) hdead hnew
  have hswept := hbefore.swept id v hv
  have hhandlers : v.killHandlers = registered id m during := by
    rw [hcourse.killHandlers, hnone v₀ hv₀, List.nil_append]
  have honce : (m.run (during ++ op :: after)).rites id = v.rites := by
    rw [rites_run_append, rites_run_cons, hquiet, hrites, rites_of_silent hsilent, List.nil_append,
      List.append_nil]
  refine ⟨v, ?_⟩
  exact
    { lives := hlives
      session := hv
      dies := hdies
      handlers := hhandlers
      devices := by
        refine ⟨hswept, v.pairwise_deviceIds, fun device => ?_⟩
        rw [Vm.mem_deviceIds_iff, Vm.hasDevice, Option.isSome_iff_exists]
      steps := ⟨hrites, fun h hh => hswept.rite_ne_nil hh⟩
      once := honce
      callbacks := by
        rw [handlers_eq_rites, honce, Vm.handlers_rites, enrolled_run hm, registered_append,
          registered, hlast, hrest, hhandlers]
        simp
      hostLines := hbefore.irqOwner?_of_thins (thins_of_death hbefore halive hdies)
      silence := hsilent }

/-- A session begins without handlers. -/
theorem killHandlers_create (hm : Settled config m) (hborn : (m.perform .create).val.1 = .vm id) :
    (m.perform .create).val.2.isAlive id = true ∧
      ∀ v, (m.perform .create).val.2.registry.get? id = some v → v.killHandlers = [] := by
  obtain ⟨e, hval⟩ | ⟨other, memory, registry, modules, hcreated, hval⟩ := create_cases hm
  all_goals rw [hval] at hborn ⊢
  · cases hborn
  · obtain rfl := Reply.vm.inj hborn
    have hget : registry.get? other = some (.new other memory m.config.maxIoHandlers) := by
      rw [Registry.get?_create hm.named hcreated, if_pos rfl]
    refine ⟨?_, fun v hv => ?_⟩
    · show registry.isAlive other = true
      rw [Registry.isAlive, hget]
      rfl
    · obtain rfl := Option.some.inj (hget.symm.trans hv)
      rfl

/-- **A session is torn down once**, by the handlers that were registered on it, in order. -/
theorem torn_down_once (hm : Reachable config m) (hborn : (m.perform .create).val.1 = .vm id)
    (hdead : ((m.perform .create).val.2.run ops).val.2.isAlive id = false)
    (hnew : id ∉ newcomers ((m.perform .create).val.2.run ops).val.1) :
    ∃ during op after v, ops = during ++ op :: after ∧
      TornDown id (m.perform .create).val.2 during op after v := by
  have hcreated := settled_create hm.settled
  obtain ⟨halive, hnone⟩ := killHandlers_create hm.settled hborn
  obtain ⟨during, op, after, rfl, hlives, hdies⟩ := exists_death halive hdead
  rw [newcomers_run_append, newcomers_run_cons, List.mem_append, List.mem_append, not_or,
    not_or] at hnew
  obtain ⟨v, hv⟩ := tornDown hcreated hnone hlives hdies hnew.2.2
  exact ⟨during, op, after, v, rfl, hv⟩

/-- A guest is at fault, after an install that failed and with a collaborator's handler between two
devices. A handler that is registered too late does not run. -/
theorem torn_down_by_fault :
    ∃ m ops, Reachable { guestMemory := 0x500 } m ∧ (m.perform .create).val.1 = .vm ⟨0, 0⟩ ∧
      ((m.perform .create).val.2.run ops).rites ⟨0, 0⟩ =
        [.diagnostic (.deviceTornDown ⟨0, 0⟩ "pic"),
          .diagnostic (.killHandlerRuns ⟨0, 0⟩ "log"), .event (.killHandler "log" ⟨0, 0⟩),
          .event (.device "meter" ⟨0, 0⟩ .teardown []),
          .diagnostic (.deviceTornDown ⟨0, 0⟩ "meter")] ∧
      ∃ during op after v, ops = during ++ op :: after ∧
        TornDown ⟨0, 0⟩ (m.perform .create).val.2 during op after v := by
  have hreachable : Reachable { guestMemory := 0x500 } _ := reachable_run rfl []
  refine ⟨_, [.installPic ⟨0, 0⟩, .installPic ⟨0, 0⟩, .addKillHandler ⟨0, 0⟩ "log",
    .attach ⟨0, 0⟩ (.external { name := "meter", respond := fun _ => {} }), .grabIrq ⟨0, 0⟩ 3,
    .interrupt ⟨0, 0⟩ 8, .addKillHandler ⟨0, 0⟩ "late", .timerTick 1], hreachable, ?_, ?_,
    torn_down_once hreachable ?_ ?_ ?_⟩
  · cbv
  · cbv
  · cbv
  · cbv
  · rw [show newcomers _ = [] by cbv]
    exact List.not_mem_nil

end Monitor
end RealModeMonitor
