import RealModeMonitor.Proofs.Monitor.Outcome

/-!
# Who owns what

**Theorem (`references_consistent`).** In every reachable monitor the parts refer to each other
rightly: sessions bear the names of their slots, host lines are owned by live sessions, routes lead
to devices that are there, the teardown of a session is for the devices that it has, and a device
keeps its name as long as its session lives.

Most of it is what a settled monitor is. That a device keeps its name is said of a run: the arena of
a session only grows (`course_run`), also when an install fails and leaves an empty place behind, so
what stood at a place stands there (`Names.run`). A name is not given to a second device because the
steps of the teardown name every device once (`not_given_again`).
-/

namespace RealModeMonitor.Monitor

open Traced

variable {config : Config} {m : Monitor} {c id : VmId} {v v' : Vm} {d d' : Device}
  {device : DeviceId} {op : Op} {ops : List Op}

/-! ## Names of devices -/

/-- The device that an operation brings into a session, if it is about one. -/
def Op.device? : Op → Option Device
  | .attach _ d | .install _ d => some d
  | .installPic _ => some (.pic .initial)
  | .installPit _ => some (.pit .initial)
  | .installDma _ => some (.dma .initial)
  | .installCmos _ => some (.cmos (.initial 0))
  | _ => none

/-- In session `id`, `device` names the device `d`, in whatever state it is. -/
def Names (m : Monitor) (id : VmId) (device : DeviceId) (d : Device) : Prop :=
  ∃ v d', m.registry.get? id = some v ∧ v.device? device = some d' ∧ d'.blank = d.blank

theorem names_of_put {modules : ModuleTable} (live : m.registry.get? c = some v)
    (h : v'.device? device = some d) :
    Names { m with modules, registry := m.registry.set c v' } c device d := by
  refine ⟨v', d, ?_, h, rfl⟩
  show (m.registry.set c v').get? c = some v'
  rw [Registry.get?_set live, if_pos rfl]

theorem names_attachDevice (hm : Settled config m)
    (h : (m.attachDevice c d).val.1 = .ok device) :
    Names (m.attachDevice c d).val.2 c device d := by
  cases live : m.registry.get? c with
  | none =>
    rw [attachDevice, live] at h
    cases h
  | some v =>
    obtain ⟨-, modules, hval⟩ := attachDevice_live hm.toSound live d
    rw [hval] at h ⊢
    obtain rfl := Except.ok.inj h
    exact names_of_put live (v.device?_attach d)

theorem device?_install (h : (v.install d).1 = .ok device) :
    (v.install d).2.device? device = some d := by
  obtain ⟨io, -, hinstall⟩ | ⟨e, io, -, hinstall⟩ := v.install_cases d
  all_goals rw [hinstall] at h ⊢; cases h
  exact v.device?_attach d

theorem names_installDevice (hm : Settled config m)
    (h : (m.installDevice c d).val.1 = .ok device) :
    Names (m.installDevice c d).val.2 c device d := by
  cases live : m.registry.get? c with
  | none =>
    rw [installDevice, live] at h
    cases h
  | some v =>
    obtain ⟨-, modules, hval⟩ := installDevice_live hm.toSound live d
    rw [hval] at h ⊢
    exact names_of_put live (device?_install h)

theorem names_installCmos (hm : Settled config m) (h : (m.installCmos c).val.1 = .ok device) :
    Names (m.installCmos c).val.2 c device (.cmos (.initial 0)) := by
  rw [installCmos, inspectVm_eq hm, pure_bind] at h ⊢
  cases live : m.registry.get? c with
  | none =>
    rw [live] at h
    cases h
  | some v =>
    rw [live] at h
    obtain ⟨v', d', hv', hd', hblank⟩ := names_installDevice hm h
    exact ⟨v', d', hv', hd', hblank.trans (by simp only [Device.blank])⟩

theorem ok_of_reply {y : Except MonitorError DeviceId × Monitor}
    (h : (Reply.ofResult .device y).1 = .device device) : y.1 = .ok device := by
  obtain ⟨e | device', m⟩ := y
  · cases h
  · cases h
    rfl

/-- The device that an operation answers with is the one it brought. -/
theorem names_perform (hm : Settled config m) (hdevice : op.device? = some d)
    (hsubject : op.subject? = some id) (hreply : (m.perform op).val.1 = .device device) :
    Names (m.perform op).val.2 id device d := by
  cases op <;> cases hdevice <;> cases hsubject
  all_goals
    have hok := ok_of_reply hreply
    rw [perform, val_map, snd_ofResult]
  case attach => exact names_attachDevice hm hok
  case install | installPic | installPit | installDma => exact names_installDevice hm hok
  case installCmos => exact names_installCmos hm hok

theorem registers_of_reply (hdevice : op.device? = some d)
    (hreply : (m.perform op).val.1 = .device device) : m.registers op = [.device device] := by
  have hval : (m.perform op).val = (.device device, (m.perform op).val.2) := Prod.ext hreply rfl
  have hattached : m.attached [op] = [.device device] := by
    rw [attached, hval]
    rfl
  cases op <;> cases hdevice <;> exact hattached

theorem Names.run (h : Names m id device d) (hm : Settled config m)
    (hlives : livesThrough id m ops = true) : Names (m.run ops).val.2 id device d := by
  obtain ⟨v, d', hv, hd', hblank⟩ := h
  obtain ⟨w, v', hw, hv', hcourse, -⟩ := course_run hm hlives
  obtain rfl := Option.some.inj (hv.symm.trans hw)
  obtain ⟨d'', hd'', hblank'⟩ := Vm.device?_of_prefix hcourse.arena hd'
  exact ⟨v', d'', hv', hd'', hblank'.trans hblank⟩

/-- A device that is there keeps its name to itself. -/
theorem Names.not_given_again (h : Names m id device d) (hm : Settled config m)
    (hdevice : op.device? = some d') (hsubject : op.subject? = some id) :
    (m.perform op).val.1 ≠ .device device := by
  intro hreply
  obtain ⟨v, d₁, hv, hd₁, -⟩ := h
  obtain ⟨v', d₂, hv', -, -⟩ := names_perform hm hdevice hsubject hreply
  have hcreate : op ≠ .create := by
    rintro rfl
    cases hsubject
  obtain ⟨ends, hfate, -⟩ := fate_perform (b := id) hm op fun hop => absurd hop hcreate
  rw [if_pos hsubject, registers_of_reply hdevice hreply] at hfate
  obtain ⟨w, hw, hcourse, -, -⟩ := hfate.of_alive hv'
  obtain rfl := Option.some.inj (hv.symm.trans hw)
  -- The step that was added is for a device for which there is one.
  have hteardowns : v'.teardowns = v.teardowns ++ [device] := by
    rw [Vm.teardowns, hcourse.killHandlers, List.filterMap_append]
    rfl
  have hold : device ∈ v.teardowns := by
    rw [hm.swept id v hv]
    exact Vm.mem_deviceIds_iff.2 ⟨d₁, hd₁⟩
  have hnodup : v'.teardowns.Nodup := by
    rw [(settled_perform hm op).swept id v' hv']
    exact v'.nodup_deviceIds
  rw [hteardowns] at hnodup
  exact (List.nodup_append.1 hnodup).2.2 device hold device (List.mem_singleton_self _) rfl

/-! ## Host lines -/

/-- A host line never leads to a dead session. -/
theorem hardwareIrq_reaches (hm : Settled config m) (irq : UInt8) (id : VmId) :
    (m.perform (.hardwareIrq irq)).val.1 ≠ .failed (.noSuchVm id) := by
  rw [perform, val_map]
  cases howner : m.registry.irqOwner? irq with
  | none =>
    rw [hardwareIrq_unowned howner]
    intro h
    cases h
  | some owner =>
    obtain ⟨v, live⟩ := Option.isSome_iff_exists.1 (hm.owned irq owner howner)
    simp only [hardwareIrq_owned hm howner, raiseIrq, val_map, val_bind, val_pure,
      reply_withVm live, raiseOn, Reply.ofResult]
    rcases (v.raise irq).val.1 with _ | (_ | e) | _
    all_goals
      intro h
      cases h

/-! ## All together -/

/-- The parts of a monitor refer to each other rightly. -/
structure Consistent (m : Monitor) : Prop where
  /-- A session bears the name of its slot, with the slot's generation. -/
  named : ∀ (i : Nat) (s : Slot) (v : Vm), m.registry.slots[i]? = some s → s.vm = some v →
    v.id.slot.toNat = i ∧ v.id.generation = s.generation
  /-- A host line is owned by a live session, if by anyone. -/
  owners : ∀ irq id, m.registry.irqOwner? irq = some id → m.isAlive id = true
  hostLines : ∀ irq id, (m.perform (.hardwareIrq irq)).val.1 ≠ .failed (.noSuchVm id)
  /-- A port entry names a device that is there. -/
  entries : ∀ id v, m.registry.get? id = some v → ∀ e ∈ v.io.entries, v.hasDevice e.device = true
  /-- An access to a port that is routed reaches a device. -/
  ports : ∀ id v port e, m.registry.get? id = some v → v.io.get? port = some e →
    ∃ d, v.device? e.device = some d
  /-- The devices that are torn down are those that are there, each once, as they were attached. -/
  teardowns : ∀ id v, m.registry.get? id = some v →
    v.killHandlers.filterMap KillHandler.device? = v.deviceIds ∧
      v.deviceIds.Pairwise (· < ·) ∧ ∀ device, device ∈ v.deviceIds ↔ v.hasDevice device = true
  /-- A device that was attached or installed keeps its name as long as its session lives, and no
  other device of the session is given it. -/
  devices : ∀ op id d device, op.device? = some d → op.subject? = some id →
    (m.perform op).val.1 = .device device →
    ∀ ops, livesThrough id (m.perform op).val.2 ops = true →
      Names ((m.perform op).val.2.run ops).val.2 id device d ∧
      ∀ (op' : Op) (d' : Device), op'.device? = some d' → op'.subject? = some id →
        (((m.perform op).val.2.run ops).val.2.perform op').val.1 ≠ .device device

theorem Settled.consistent (hm : Settled config m) : Consistent m where
  named := hm.named.named
  owners := hm.owned
  hostLines := hardwareIrq_reaches hm
  entries := hm.routed
  ports id v port e live h := (hm.routed id v live).device? h
  teardowns id v live := by
    refine ⟨hm.swept id v live, v.pairwise_deviceIds, fun device => ?_⟩
    rw [Vm.mem_deviceIds_iff, Vm.hasDevice, Option.isSome_iff_exists]
  devices op id d device hdevice hsubject hreply ops hlives := by
    have hafter := settled_perform hm op
    have hnames := (names_perform hm hdevice hsubject hreply).run hafter hlives
    refine ⟨hnames, fun op' d' hdevice' hsubject' => ?_⟩
    exact hnames.not_given_again (settled_run hafter ops) hdevice' hsubject'

/-- **References are consistent** in every reachable monitor. -/
theorem references_consistent (hm : Reachable config m) : Consistent m :=
  hm.settled.consistent

/-- An install that fails leaves an empty place between two devices, and a collaborator's handler is
registered between their teardowns. -/
theorem consistent_with_empty_place :
    ∃ m, Reachable { guestMemory := 0x500 } m ∧
      (m.registry.get? ⟨0, 0⟩).map Vm.killHandlers =
        some [.device 0, .callback "log", .device 2] ∧
      (m.registry.get? ⟨0, 0⟩).map Vm.deviceIds = some [0, 2] ∧
      (m.registry.get? ⟨0, 0⟩).map (fun v => v.io.entries.map PortEntry.device) = some [0, 2, 0] ∧
      m.registry.irqOwner? 5 = some ⟨0, 0⟩ ∧ Consistent m := by
  have hreachable : Reachable { guestMemory := 0x500 } _ := reachable_run rfl
    [.create, .installPic ⟨0, 0⟩, .installPic ⟨0, 0⟩, .addKillHandler ⟨0, 0⟩ "log",
      .installPit ⟨0, 0⟩, .grabIrq ⟨0, 0⟩ 5]
  exact ⟨_, hreachable, by cbv, by cbv, by cbv, by cbv, references_consistent hreachable⟩

end RealModeMonitor.Monitor
