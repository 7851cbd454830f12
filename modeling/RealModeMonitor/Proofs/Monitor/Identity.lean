import RealModeMonitor.Proofs.Monitor.Run

/-!
# Names of sessions never alias

**Theorem (`names_never_alias`).** In every run in which no slot sees 2³² removals, no name is given
twice, and a name reaches a session exactly while the session that it was given to lives.

A name is a slot and a generation, and generations are 32-bit words that wrap. The invariant
`Tracks` compares the slots with the history: the generation of a slot is the number of removals
that it has seen, reduced to a word, and a name that was given and is dead has a generation that
its slot has left behind. As long as the number of removals fits into a word, the next name in a
slot is therefore new.

**Names of the dead.** An operation on a session that does not live leaves the whole monitor as it
is and says so (`perform_dead`).
-/

namespace RealModeMonitor.Monitor

open Traced

variable {config : Config} {m m' : Monitor} {r r' : Registry} {id other : VmId} {v : Vm} {op : Op}
  {h l : List Incident} {slot : Nat}

/-! ## Histories -/

/-- The names that were given, in order. -/
def births (h : List Incident) : List VmId :=
  h.filterMap fun
    | .born id => some id
    | _ => none

/-- How many sessions were removed from a slot. -/
def removals (slot : Nat) (h : List Incident) : Nat :=
  h.countP fun
    | .died id => id.slot.toNat = slot
    | _ => false

/-- The name was given, and its session did not die since. -/
def Standing (id : VmId) (h : List Incident) : Prop :=
  ∃ before since, h = before ++ .born id :: since ∧ .died id ∉ since

theorem standing_concat (i : Incident) :
    Standing id (h ++ [i]) ↔ i = .born id ∨ (i ≠ .died id ∧ Standing id h) := by
  constructor
  · rintro ⟨before, since, heq, hsince⟩
    rcases List.eq_nil_or_concat since with rfl | ⟨rest, last, rfl⟩
    · exact .inl (List.singleton_inj.1 (List.append_inj' heq rfl).2)
    · rw [List.concat_eq_append, ← List.cons_append, ← List.append_assoc] at heq
      obtain ⟨rfl, hlast⟩ := List.append_inj' heq rfl
      rw [List.concat_eq_append, List.mem_append, not_or, ← hlast, List.mem_singleton] at hsince
      exact .inr ⟨Ne.symm hsince.2, before, rest, rfl, hsince.1⟩
  · rintro (rfl | ⟨hi, before, since, rfl, hsince⟩)
    · exact ⟨h, [], rfl, List.not_mem_nil⟩
    · refine ⟨before, since ++ [i], by simp, ?_⟩
      simp [hsince, Ne.symm hi]

theorem standing_born : Standing other (h ++ [.born id]) ↔ other = id ∨ Standing other h := by
  rw [standing_concat, Incident.born.injEq, @eq_comm _ id other]
  simp

theorem standing_died : Standing other (h ++ [.died id]) ↔ other ≠ id ∧ Standing other h := by
  rw [standing_concat, ne_eq, Incident.died.injEq, @eq_comm _ id other]
  simp

theorem births_append (h l : List Incident) : births (h ++ l) = births h ++ births l :=
  List.filterMap_append

theorem removals_append (slot : Nat) (h l : List Incident) :
    removals slot (h ++ l) = removals slot h + removals slot l :=
  List.countP_append

theorem removals_died (slot : Nat) (id : VmId) :
    removals slot [.died id] = if id.slot.toNat = slot then 1 else 0 := by
  simp [removals, List.countP_cons]

/-! ## Slots and histories -/

/-- The slots are as the history says. -/
structure Tracks (h : List Incident) (r : Registry) : Prop where
  generation : ∀ i < r.slots.size, r.generation? i = some (UInt32.ofNat (removals i h))
  alive : ∀ id, r.isAlive id = true ↔ Standing id h
  /-- The slots of the dead have moved on. -/
  past : ∀ id ∈ births h, r.isAlive id = true ∨ id.generation.toNat < removals id.slot.toNat h
  nodup : (births h).Nodup

/-- Nothing that counts for names changed. -/
theorem Tracks.same (ht : Tracks h r) (hsize : r'.slots.size = r.slots.size)
    (hgeneration : ∀ i, r'.generation? i = r.generation? i)
    (halive : ∀ id, r'.isAlive id = r.isAlive id) : Tracks h r' where
  generation i hi := by rw [hgeneration, ht.generation i (hsize ▸ hi)]
  alive id := by rw [halive, ht.alive]
  past id hid := by rw [halive]; exact ht.past id hid
  nodup := ht.nodup

theorem Tracks.set (ht : Tracks h r) (hlive : r.get? id = some v) (v' : Vm) :
    Tracks h (r.set id v') :=
  ht.same (Registry.size_set r id v') (Registry.generation?_set hlive v')
    (Registry.isAlive_set hlive v')

/-- What happens to modules does not count for names. -/
theorem Tracks.append_module {i : Incident} (ht : Tracks h r) (hborn : ∀ id, i ≠ .born id)
    (hdied : ∀ id, i ≠ .died id) : Tracks (h ++ [i]) r := by
  have hbirths : births (h ++ [i]) = births h := by
    rw [births_append]
    cases i <;> simp_all [births]
  have hremovals : ∀ slot, removals slot (h ++ [i]) = removals slot h := by
    intro slot
    rw [removals_append]
    cases i <;> simp_all [removals]
  refine ⟨?_, ?_, ?_, hbirths ▸ ht.nodup⟩
  · intro j hj
    rw [hremovals, ht.generation j hj]
  · intro id
    rw [standing_concat, ht.alive]
    simp [hborn id, hdied id]
  · intro id hid
    rw [hbirths] at hid
    rw [hremovals]
    exact ht.past id hid

/-- The generation of a name that is given, or lives, is the number of removals. -/
theorem Tracks.toNat_generation {s : Slot} (ht : Tracks h r) (hs : r.slots[id.slot.toNat]? = some s)
    (hid : s.generation = id.generation) (hbound : removals id.slot.toNat h < 2 ^ 32) :
    id.generation.toNat = removals id.slot.toNat h := by
  have hlt : id.slot.toNat < r.slots.size := (Array.getElem?_eq_some_iff.1 hs).1
  have hgeneration := ht.generation _ hlt
  rw [Registry.generation?, hs, Option.map_some, Option.some.injEq, hid] at hgeneration
  rw [hgeneration, UInt32.toNat_ofNat', Nat.mod_eq_of_lt hbound]

/-- A new name was never given before. -/
theorem Tracks.create {memory : Memory} {ioHandlers : Nat} (ht : Tracks h r) (hr : r.WellNamed)
    (hcreated : r.create memory ioHandlers = .ok (id, r'))
    (hbound : removals id.slot.toNat h < 2 ^ 32) : Tracks (h ++ [.born id]) r' := by
  obtain ⟨hfree, hr'⟩ := Registry.create_eq_ok hr.size hcreated
  have hbirths : births (h ++ [.born id]) = births h ++ [id] := births_append h _
  have hremovals : ∀ slot, removals slot (h ++ [.born id]) = removals slot h :=
    fun slot => removals_append slot h _
  have halive : ∀ other, r'.isAlive other = (r.isAlive other || other = id) := by
    intro other
    rw [Registry.isAlive, Registry.get?_create hr hcreated, Registry.isAlive]
    by_cases hid : other = id <;> simp [hid]
  have hnew : id ∉ births h := by
    intro hid
    rcases ht.past id hid with hlive | hlt
    · rw [Registry.isAlive, Registry.get?_of_create hr hcreated rfl] at hlive
      cases hlive
    · have := ht.toNat_generation hfree rfl hbound
      omega
  refine ⟨?_, ?_, ?_, ?_⟩
  · intro i hi
    rw [hremovals, Registry.generation?_create hr hcreated]
    refine ht.generation i ?_
    simpa [hr', Registry.put] using hi
  · intro other
    rw [halive, standing_born, ← ht.alive, Bool.or_eq_true, decide_eq_true_iff, or_comm]
  · intro other hother
    rw [hbirths, List.mem_append, List.mem_singleton] at hother
    rw [halive, hremovals]
    rcases hother with hother | rfl
    · exact (ht.past other hother).imp_left fun hlive => by rw [hlive]; rfl
    · exact .inl (by simp)
  · rw [hbirths]
    exact List.nodup_append.2 ⟨ht.nodup, by simp, fun a ha b hb => by
      rw [List.mem_singleton.1 hb]
      rintro rfl
      exact hnew ha⟩

/-- With a session goes its name: the slot moves on to the next generation. -/
theorem Tracks.remove (ht : Tracks h r) (hlive : r.get? id = some v)
    (hbound : removals id.slot.toNat h < 2 ^ 32) : Tracks (h ++ [.died id]) (r.remove id) := by
  have hslot := Registry.get?_eq_some_iff.1 hlive
  have hnow := ht.toNat_generation hslot rfl hbound
  have hbirths : births (h ++ [.died id]) = births h := by
    rw [births_append]
    exact List.append_nil _
  have hremovals : ∀ slot, removals slot (h ++ [.died id]) =
      removals slot h + if id.slot.toNat = slot then 1 else 0 := by
    intro slot
    rw [removals_append, removals_died]
  refine ⟨?_, ?_, ?_, hbirths ▸ ht.nodup⟩
  · intro i hi
    rw [Registry.slots_remove hlive] at hi
    rw [Registry.generation?_remove hlive, hremovals]
    split
    next hid =>
      rw [← hid, ← hnow, UInt32.ofNat_add, UInt32.ofNat_toNat]
      rfl
    next => exact ht.generation i (by simpa [Registry.put] using hi)
  · intro other
    rw [Registry.isAlive_remove hlive, standing_died, ← ht.alive, Bool.and_eq_true,
      decide_eq_true_iff, and_comm]
  · intro other hother
    rw [hbirths] at hother
    rw [Registry.isAlive_remove hlive, hremovals]
    by_cases hid : other = id
    · right
      rw [hid, if_pos rfl, hnow]
      exact Nat.lt_succ_self _
    · exact (ht.past other hother).imp (fun h => by simp [h, hid]) fun h => by omega

/-- **Each step** keeps slots and history together, as long as the removals fit into a word. -/
theorem Tracks.step (ht : Tracks h m.registry) (hm : Sound config m) (hstep : Step m l m')
    (hbound : ∀ slot, removals slot h < 2 ^ 32) : Tracks (h ++ l) m'.registry := by
  cases hstep with
  | elsewhere hconfig hslots hholds =>
    rw [List.append_nil]
    refine ht.same (by rw [hslots]) (fun i => ?_) (fun id => ?_)
    · rw [Registry.generation?, hslots, Registry.generation?]
    · rw [Registry.isAlive, get?_of_slots hslots, Registry.isAlive]
  | work live keeps | attach live opens keeps | retract live opens keeps =>
    rw [List.append_nil]
    exact ht.set live _
  | create created opens => exact ht.create hm.named created (hbound _)
  | bury live =>
    rw [registry_bury]
    exact ht.remove live (hbound _)
  | opened opens => exact ht.append_module (by simp) (by simp)
  | closed closes => exact ht.append_module (by simp) (by simp)

theorem Tracks.steps (hsteps : Steps m l m') {h : List Incident} (ht : Tracks h m.registry)
    (hm : Sound config m) (hbound : ∀ slot, removals slot (h ++ l) < 2 ^ 32) :
    Tracks (h ++ l) m'.registry := by
  induction hsteps generalizing h with
  | refl m => rwa [List.append_nil]
  | @head m m₁ m' l l' first rest ih =>
    have hfirst : ∀ slot, removals slot h < 2 ^ 32 := by
      intro slot
      have := hbound slot
      rw [removals_append] at this
      omega
    rw [← List.append_assoc] at hbound ⊢
    exact ih (ht.step hm first hfirst) (hm.step first) hbound

theorem tracks_start (hstart : (start config).val = .ok m) : Tracks [] m.registry := by
  obtain ⟨-, rfl⟩ := start_eq_ok hstart
  refine ⟨?_, ?_, nofun, List.nodup_nil⟩
  · intro i hi
    have hlt : i < config.maxVms := by simpa [Registry.ofSize] using hi
    simp [Registry.generation?, Registry.ofSize, hlt, removals]
  · intro id
    rw [Registry.isAlive, get?_ofSize]
    simp [Standing]

/-! ## Names of the dead -/

/-- The reply to an operation on a session that does not live. -/
def Op.rebuff (id : VmId) : Op → Reply
  | .kill _ | .removeIoHandler .. | .removeService .. => .done
  | .isAlive _ => .flag false
  | .ioHandler .. => .entry none
  | .serviceName .. => .name none
  | _ => .failed (.noSuchVm id)

theorem val_onSession_dead {work : Work} (hdead : m.registry.get? id = none) :
    (m.onSession id work).val = (.failed (.noSuchVm id), m) := by
  rw [onSession, hdead]
  rfl

theorem val_inOrder_cons {e : MonitorError}
    {f : Monitor → Traced (Except MonitorError DeviceId × Monitor)} (hf : (f m).val = (.error e, m))
    (fs : List (Monitor → Traced (Except MonitorError DeviceId × Monitor))) :
    (m.inOrder (f :: fs)).val = (.error e, m) := by
  rw [inOrder, val_bind, hf]
  rfl

theorem perform_dead_other {clock : Clock} {ioTrace : Bool} (hop : op.subject? = some id)
    (hwork : op.work? clock ioTrace = none) (hdead : m.registry.get? id = none) :
    (m.perform op).val = (op.rebuff id, m) := by
  have halive : m.registry.isAlive id = false := by rw [Registry.isAlive, hdead]; rfl
  have hinstall : ∀ d, (m.installDevice id d).val = (.error (.noSuchVm id), m) := by
    intro d
    rw [installDevice, hdead]
    rfl
  cases op <;> cases hop <;> cases hwork
  case kill =>
    simp only [perform, val_bind, val_kill, bury_dead hdead]
    rfl
  case isAlive =>
    simp only [perform, isAlive, halive]
    rfl
  case attach d =>
    simp only [perform, attachDevice, hdead]
    rfl
  case install | installPic | installPit | installDma =>
    simp only [perform, installPic, installPit, installDma, val_map, hinstall]
    rfl
  case installCmos =>
    simp only [perform, installCmos, inspectVm, withVm, hdead]
    rfl
  case installStandard =>
    simp only [perform, installStandardDevices, val_map]
    rw [val_inOrder_cons (f := (·.installPic id)) (hinstall _)]
    rfl
  case removeIoHandler range =>
    simp only [perform, removeIoHandler, hdead]
    rfl
  case removeService number =>
    simp only [perform, removeService, hdead]
    rfl
  case ioHandler port =>
    simp only [perform, ioHandler?, hdead]
    rfl
  case serviceName number =>
    simp only [perform, serviceName?, hdead]
    rfl
  case grabIrq irq =>
    simp only [perform, grabIrq, isAlive, halive]
    rfl

/-- **The dead** are told so, and nothing changes. -/
theorem perform_dead (hop : op.subject? = some id) (hdead : m.registry.get? id = none) :
    (m.perform op).val = (op.rebuff id, m) := by
  cases hwork : op.work? m.clock m.ioTrace with
  | some found =>
    obtain ⟨id', work⟩ := found
    obtain rfl : id' = id := Option.some.inj ((subject?_of_work hwork).symm.trans hop)
    rw [perform_work hwork, val_onSession_dead hdead]
    cases op <;> cases hwork <;> rfl
  | none => exact perform_dead_other hop hwork hdead

/-! ## All together -/

/-- Names reach sessions as the history says. -/
structure Unaliased (config : Config) (h : List Incident) (m : Monitor) : Prop where
  /-- No name is given twice. -/
  once : (births h).Nodup
  /-- A name is alive from when it is given until its session dies. -/
  alive : ∀ id, m.isAlive id = true ↔ Standing id h
  /-- A session dies if it is killed or at fault. -/
  died : ∀ op id, .died id ∈ incidents op (m.perform op) ↔
    (op = .kill id ∧ m.isAlive id = true) ∨ .guestFaulted id ∈ (m.perform op).diagnostics
  /-- A name that is not alive reaches nobody, and whoever uses it is told. -/
  dead : ∀ op id, op.subject? = some id → m.isAlive id = false →
    (m.perform op).val = (op.rebuff id, m)
  inOrder : m.vmIds.Pairwise fun a b => a.slot < b.slot
  listed : ∀ id, id ∈ m.vmIds ↔ m.isAlive id = true
  full : (m.perform .create).val.1 = .failed (.exhausted .vmSlot) ↔ m.vmIds.length = config.maxVms

theorem died_mem_incidents (op : Op) (x : Traced (Reply × Monitor)) (id : VmId) :
    .died id ∈ incidents op x ↔ id ∈ x.deaths := by
  have hanswered : .died id ∉ answered op x.val.1 := by
    unfold answered
    split <;> simp
  simp [incidents, hanswered]

theorem create_exhausted_iff (hm : Sound config m) :
    (m.perform .create).val.1 = .failed (.exhausted .vmSlot) ↔ m.vmIds.length = config.maxVms := by
  obtain ⟨hfull, hval⟩ | ⟨hfree, -, id, memory, registry, modules, -, -, hval⟩ := createVm_cases hm
  · simp only [perform, hval]
    exact iff_of_true rfl hfull
  · simp only [perform, val_map, hval]
    exact iff_of_false (fun h => by cases h) hfree

/-- **Names never alias**, as long as no slot sees 2³² removals. -/
theorem names_never_alias {m₀ : Monitor} {ops : List Op} (hstart : (start config).val = .ok m₀)
    (hremovals : ∀ slot, removals slot (history m₀ ops) < 2 ^ 32) :
    Unaliased config (history m₀ ops) (m₀.run ops).val.2 := by
  have hsteps := steps_run (sound_start hstart) ops
  have hm := (sound_start hstart).steps hsteps
  have ht : Tracks (history m₀ ops) (m₀.run ops).val.2.registry :=
    Tracks.steps hsteps (tracks_start hstart) (sound_start hstart) hremovals
  exact
    { once := ht.nodup
      alive := ht.alive
      died := fun op id => (died_mem_incidents op _ id).trans ((remembered_perform hm op).cause id)
      dead := fun op id hop hdead =>
        perform_dead hop (by simpa [isAlive, Registry.isAlive] using hdead)
      inOrder := hm.named.pairwise_ids
      listed := fun id => hm.named.mem_ids_iff
      full := create_exhausted_iff hm }

/-- A kill, the slot used again, and a death by fault at a stack that does not exist. -/
theorem names_of_reused_slot :
    let config : Config := { guestMemory := 0x500 }
    let m₀ : Monitor :=
      { config, clock := { hz := config.tickHz }, registry := .ofSize config.maxVms }
    let ops : List Op :=
      [.create, .create, .kill ⟨0, 0⟩, .create,
        .withGuest ⟨1, 0⟩ [.setRegisters { ss := some 0xF000 }], .interrupt ⟨1, 0⟩ 8]
    (start config).val = .ok m₀ ∧ (∀ slot, removals slot (history m₀ ops) < 2 ^ 32) ∧
      history m₀ ops = [.born ⟨0, 0⟩, .born ⟨1, 0⟩, .died ⟨0, 0⟩, .born ⟨0, 1⟩, .died ⟨1, 0⟩] ∧
      Unaliased config (history m₀ ops) (m₀.run ops).val.2 := by
  intro config m₀ ops
  have hstart : (start config).val = .ok m₀ := rfl
  have hhistory : history m₀ ops =
      [.born ⟨0, 0⟩, .born ⟨1, 0⟩, .died ⟨0, 0⟩, .born ⟨0, 1⟩, .died ⟨1, 0⟩] := by cbv
  have hremovals : ∀ slot, removals slot (history m₀ ops) < 2 ^ 32 := by
    intro slot
    rw [hhistory]
    exact Nat.lt_of_le_of_lt List.countP_le_length (by decide)
  exact ⟨hstart, hremovals, hhistory, names_never_alias hstart hremovals⟩

end RealModeMonitor.Monitor
