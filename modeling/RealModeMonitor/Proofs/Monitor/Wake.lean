import RealModeMonitor.Proofs.Monitor.Isolation
import RealModeMonitor.Proofs.Vm.Wake

/-!
# No missed wake-up

An interrupt that could be delivered to a session is not left waiting. Whatever may make one
deliverable is followed by an offer: the guest switches its interrupts on or returns from a
handler, a line is raised, the controller's mask changes, an interrupt ends, an initialisation
comes to its end, a timer expires.

**Theorem (`no_missed_wakeup`).** In a reachable monitor, take a session whose devices are built
in and at most one a controller. After the guest switched its interrupts on, or returned from a
handler, nothing is deliverable to the session, or it is dead. If nothing is deliverable before
any other operation, nothing is after it.

There are exceptions. An operation may reach for the guest and make no offer (`Op.reachesGuest`),
and each of these may leave something deliverable, as the example at the end shows. A controller
that is brought into the session must not bring requests along.
-/

namespace RealModeMonitor.Monitor

open Traced

variable {α : Type} {config : Config} {m m' : Monitor} {id c : VmId} {v : Vm} {op : Op}
  {clock : Clock} {ioTrace : Bool}

/-- The line that a session's guest would be entered for if it were offered one now. -/
def deliverable? (m : Monitor) (id : VmId) : Option Line :=
  (m.registry.get? id).bind Vm.deliverable?

/-- Operations in which a guest asks for what it missed. -/
def Op.offers : Op → Bool
  | .enableInterrupts _ | .guestIret _ => true
  | _ => false

/-- Operations that change whether a guest may take an interrupt, and make no offer. -/
def Op.reachesGuest : Op → Bool
  | .setResumable _ on => on
  | .withGuest _ _ | .dispatchService _ _ => true
  | _ => false

/-- Whether a device that the operation brings along is without requests. -/
def Op.bringsFresh : Op → Bool
  | .attach _ d | .install _ d => d.isFresh
  | _ => true

/-! ## Work -/

theorem calm_timerWork (hv : v.Plain) (hcalm : v.Calm) (g : α → Reply)
    (f : IntervalTimer → Except MonitorError α) : (timerWork clock id g f v).val.2.Calm := by
  rw [session_timerWork]
  exact hcalm.syncTimer hv clock

theorem calm_raiseOn (hv : v.Plain) (hcalm : v.Calm) (line : UInt8) :
    (raiseOn id line v).val.2.Calm := by
  rw [session_raiseOn]
  exact hcalm.raise hv line

theorem calm_deliverOn (hv : v.Plain) (guest : Guest) :
    (deliverOn id { v with guest }).val.2.Calm :=
  Vm.calm_deliver ((v.keeps_guest guest).plain hv)

/-- A guest that asks is offered what there is, whatever was before. -/
theorem calm_offer {work : Work} (h : op.work? clock ioTrace = some (id, work))
    (hop : op.offers = true) (hv : v.Plain) : (work v).val.2.Calm := by
  cases op <;> cases h <;> cases hop
  case enableInterrupts => exact @calm_deliverOn id v hv _
  case guestIret =>
    unfold Work.replying
    simp only [val_bind, val_pure]
    split
    next e guest hiret =>
      have hfaulted : guest.faulted = true := by
        unfold Guest.iret at hiret
        split at hiret <;> cases hiret
        rfl
      exact fun _ _ _ => .inl hfaulted
    next => exact @calm_deliverOn id v hv _

/-- **Work** on a session leaves it calm, unless it reaches for the guest. -/
theorem calm_work {work : Work} (h : op.work? clock ioTrace = some (id, work))
    (hop : op.reachesGuest = false) (hv : v.Plain) (hcalm : v.Calm) : (work v).val.2.Calm := by
  refine if hedits : op.edits = true then hcalm.edited hv (edited_work h hedits) else ?_
  refine if hoffers : op.offers = true then calm_offer h hoffers hv else ?_
  cases op <;> cases h <;> cases hop
  case addIoHandler | addService | watchTimer | setDmaProgram => exact absurd rfl hedits
  case addKillHandler | bindTask | controller | dmaProgram => exact hcalm
  case ioIn port operand =>
    have h := hcalm.readBytes hv clock port operand.width
    unfold Work.replying
    simp only [val_bind, val_pure]
    split <;> exact h
  case ioOut port operand =>
    have h := hcalm.writeBytes hv clock port operand.bytes
    unfold Work.replying
    simp only [val_bind, val_pure]
    split <;> exact h
  case raiseIrq line => exact calm_raiseOn hv hcalm line
  case interrupt vector =>
    intro i c _
    have h := c.calm_interrupt v.guest vector
    rw [← Guest.val_inject] at h
    exact h
  case enableInterrupts | guestIret => exact absurd rfl hoffers
  case disableInterrupts => exact fun _ c _ => c.calm_of_vif v.guest.vif_setVif_false
  case setResumable =>
    exact fun _ _ _ => InterruptController.calm_of_not_resumable rfl
  case timerChannel n => exact calm_timerWork hv hcalm _ _
  case timerChannels => exact calm_timerWork hv hcalm _ _

/-! ## Sessions that are put back -/

/-- A session that is not at fault survives, and nothing is deliverable to it if it is calm. -/
theorem deliverable?_survivor (h : v.Calm) : (survivor v).bind Vm.deliverable? = none := by
  unfold survivor
  cases hfaulted : v.guest.faulted with
  | true => rfl
  | false => exact h.deliverable? hfaulted

theorem deliverable?_withVm {f : Vm → Traced (Except MonitorError α × Vm)}
    (hother : id ≠ c → m.deliverable? id = none)
    (hcalm : id = c → ∀ v, m.registry.get? c = some v → (f v).val.2.Calm) :
    (m.withVm c f).val.2.deliverable? id = none := by
  rw [deliverable?, get?_withVm]
  split
  next hid =>
    cases hlive : m.registry.get? c with
    | none => rfl
    | some v => exact deliverable?_survivor (hcalm hid v hlive)
  next hid => exact hother hid

theorem deliverable?_work {work : Work} (h : op.work? m.clock m.ioTrace = some (c, work))
    (hother : id ≠ c → m.deliverable? id = none)
    (hcalm : id = c → ∀ v, m.registry.get? c = some v → (work v).val.2.Calm) :
    (m.perform op).val.2.deliverable? id = none := by
  rw [perform_work h, onSession_eq_withVm, val_map, snd_ofResult]
  exact deliverable?_withVm hother hcalm

/-- A live session is changed, and what was not deliverable to it is not. -/
theorem deliverable?_of_set {v' : Vm} (h : m.deliverable? id = none)
    (live : m.registry.get? c = some v)
    (hv' : id = c → v.deliverable? = none → v'.deliverable? = none)
    (hregistry : m'.registry = m.registry.set c v') : m'.deliverable? id = none := by
  rw [deliverable?, hregistry, Registry.get?_set live]
  split
  next hid =>
    rw [deliverable?, hid, live] at h
    exact hv' hid h
  next => exact h

/-! ## Devices -/

theorem deliverable?_attachDevice (hm : Sound config m) (h : m.deliverable? id = none) {d : Device}
    (hd : id = c → d.isFresh = true) : (m.attachDevice c d).val.2.deliverable? id = none := by
  cases live : m.registry.get? c with
  | none =>
    rw [attachDevice, live]
    exact h
  | some v =>
    obtain ⟨-, modules, hval⟩ := attachDevice_live hm live d
    rw [hval]
    exact deliverable?_of_set h live (fun hid hv => Vm.deliverable?_attach hv (hd hid)) rfl

theorem deliverable?_installDevice (hm : Sound config m) (h : m.deliverable? id = none) {d : Device}
    (hd : id = c → d.isFresh = true) : (m.installDevice c d).val.2.deliverable? id = none := by
  cases live : m.registry.get? c with
  | none =>
    rw [installDevice, live]
    exact h
  | some v =>
    obtain ⟨-, modules, hval⟩ := installDevice_live hm live d
    rw [hval]
    refine deliverable?_of_set h live (fun hid hv => ?_) rfl
    obtain ⟨io, -, hinstall⟩ | ⟨e, io, -, hinstall⟩ := v.install_cases d
    all_goals rw [hinstall]
    · exact Vm.deliverable?_attach hv (hd hid)
    · exact Vm.deliverable?_retract hv d

/-- The monitor is sound, and nothing is deliverable to session `id`. -/
structure Dozes (config : Config) (id : VmId) (m : Monitor) : Prop where
  sound : Sound config m
  undelivered : m.deliverable? id = none

theorem Dozes.installDevice (h : Dozes config id m) {d : Device} (hd : d.isFresh = true) :
    Dozes config id (m.installDevice c d).val.2 where
  sound := h.sound.steps (m.evolves_installDevice c d).steps
  undelivered := deliverable?_installDevice h.sound h.undelivered fun _ => hd

theorem Dozes.inspectVm (h : Dozes config id m) (f : Vm → Except MonitorError α) :
    Dozes config id (m.inspectVm c f).val.2 where
  sound := h.sound.steps (m.evolves_inspectVm c f).steps
  undelivered := by
    refine deliverable?_withVm (fun _ => h.undelivered) fun hid v hv => Vm.calm_of_deliverable? ?_
    have hnone := h.undelivered
    rwa [deliverable?, hid, hv] at hnone

theorem Dozes.installCmos (h : Dozes config id m) : Dozes config id (m.installCmos c).val.2 :=
  (composable_keeps (Dozes config id)).installCmos (fun h => h.inspectVm _)
    (fun _ _ h => h.installDevice rfl) h

theorem Dozes.installStandardDevices (h : Dozes config id m) :
    Dozes config id (m.installStandardDevices c).val.2 :=
  (composable_keeps (Dozes config id)).installStandardDevices (fun _ h => h.installDevice rfl)
    (fun _ h => h.installDevice rfl) (fun _ h => h.installDevice rfl) (fun _ h => h.installCmos) m h

/-! ## Ticks -/

theorem deliverable?_timerTick (hm : Sound config m)
    (h : ∀ v, m.registry.get? id = some v → v.Plain ∧ v.deliverable? = none) (n : UInt32) :
    (m.timerTick n).val.deliverable? id = none := by
  have hsession := congrArg View.session (timerTick_eq hm n id).1
  dsimp only [view] at hsession
  rw [deliverable?, hsession]
  cases hlive : m.registry.get? id with
  | none => rfl
  | some v =>
    obtain ⟨hv, hnone⟩ := h v hlive
    exact deliverable?_survivor ((Vm.calm_of_deliverable? hnone).tick hv _)

/-! ## Shell commands -/

/-- A session, if alive, is plain, and nothing is deliverable to it. -/
def Asleep (id : VmId) (m : Monitor) : Prop :=
  ∀ v, m.registry.get? id = some v → v.Plain ∧ v.deliverable? = none

theorem Asleep.deliverable? (h : Asleep id m) : m.deliverable? id = none := by
  rw [Monitor.deliverable?, Option.bind_eq_none_iff]
  exact fun v hv => (h v hv).2

theorem Asleep.withVm (h : Asleep id m) {f : Vm → Traced (Except MonitorError α × Vm)}
    (hkeeps : ∀ v : Vm, v.Keeps (f v).val.2)
    (hcalm : ∀ v : Vm, v.Plain → v.Calm → (f v).val.2.Calm) : Asleep id (m.withVm c f).val.2 := by
  intro v hv
  rw [get?_withVm] at hv
  split at hv
  next hid =>
    subst hid
    obtain ⟨w, hw, hsurvivor⟩ := Option.bind_eq_some_iff.1 hv
    obtain ⟨hplain, hnone⟩ := h w hw
    have hcalm := hcalm w hplain (Vm.calm_of_deliverable? hnone)
    unfold survivor at hsurvivor
    split at hsurvivor
    next => cases hsurvivor
    next hfaulted =>
      obtain rfl := Option.some.inj hsurvivor
      exact ⟨(hkeeps w).plain hplain, hcalm.deliverable? (Bool.eq_false_iff.2 hfaulted)⟩
  next => exact h v hv

theorem Asleep.controllerReport (h : Asleep id m) (c : VmId) :
    Asleep id (m.controllerReport c).val.2 := by
  have hlook : Asleep id (m.controllerOf c).val.2 := h.withVm .refl fun _ _ hcalm => hcalm
  unfold Monitor.controllerReport
  simp only [val_bind]
  split <;> exact hlook

theorem Asleep.timerReport (h : Asleep id m) (c : VmId) : Asleep id (m.timerReport c).val.2 := by
  have hlook : Asleep id (m.timerChannels c).val.2 := by
    refine h.withVm (fun v => ?_) fun v hv hcalm => ?_
    · have hkeeps := v.keeps_syncTimer m.clock
      simp only [val_bind, val_pure]
      split <;> exact hkeeps
    · have hsync := hcalm.syncTimer hv m.clock
      simp only [val_bind, val_pure]
      split <;> exact hsync
  unfold Monitor.timerReport
  simp only [val_bind]
  split <;> exact hlook

theorem Asleep.runShell (h : Asleep id m) (line : String) : Asleep id (m.runShell line).val.2 :=
  (composable_keeps (Asleep id)).runShell (fun _ c h => h.controllerReport c)
    (fun _ c h => h.timerReport c) (fun _ _ _ h => h) m line h

/-! ## Every operation -/

theorem deliverable?_create (hm : Sound config m) (h : m.deliverable? id = none) :
    m.createVm.val.2.deliverable? id = none := by
  obtain ⟨-, hval⟩ | ⟨-, -, new, memory, registry, modules, hcreated, -, hval⟩ := createVm_cases hm
  · rw [hval]
    exact h
  · rw [hval]
    show (registry.get? id).bind Vm.deliverable? = none
    rw [Registry.get?_create hm.named hcreated]
    split
    · rfl
    · exact h

theorem deliverable?_hardwareIrq (hm : Sound config m) (h : Asleep id m) (irq : UInt8) :
    (m.hardwareIrq irq).val.2.deliverable? id = none := by
  obtain ⟨-, hirq⟩ | ⟨owner, -, hirq | ⟨_, -, -, hirq⟩⟩ := hardwareIrq_cases hm irq
  all_goals rw [hirq]
  case inl | inr.inr => exact h.deliverable?
  refine deliverable?_withVm (fun _ => h.deliverable?) fun hid v hv => ?_
  obtain ⟨hplain, hnone⟩ := h v (hid ▸ hv)
  exact calm_raiseOn hplain (Vm.calm_of_deliverable? hnone) irq

theorem deliverable?_of_slots {registry : Registry} (h : registry.slots = m.registry.slots) :
    { m with registry }.deliverable? id = m.deliverable? id := by
  rw [deliverable?, deliverable?, get?_of_slots h]

theorem deliverable?_grabIrq (h : m.deliverable? id = none) (irq : UInt8) :
    (m.grabIrq c irq).val.2.deliverable? id = none := by
  unfold grabIrq
  split
  · split
    · exact h
    · split
      next => exact h
      next registry hroute =>
        have hslots := slots_route m.registry irq (some c)
        rw [hroute] at hslots
        exact (deliverable?_of_slots hslots).trans h
  · exact h

/-- An operation that is not work on one session. -/
theorem deliverable?_other (hm : Sound config m) (h : Asleep id m)
    (hfresh : op.subject? = some id → op.bringsFresh = true)
    (hwork : op.work? clock ioTrace = none) :
    (m.perform op).val.2.deliverable? id = none := by
  have hnone := h.deliverable?
  cases op <;> cases hwork
  case isAlive | vmIds | vmForTask | summaries | ioHandler | serviceName | setIoTrace | ioTrace |
      advanceClock | now | openModule | closeModule | expungeModule | modules | addShellCommands |
      shellCommands =>
    rwa [deliverable?, registry_of_idle rfl]
  case create =>
    rw [perform, val_map, snd_ofResult]
    exact deliverable?_create hm hnone
  case kill c =>
    rw [deliverable?, get?_kill]
    split
    · rfl
    · exact hnone
  case attach c d =>
    rw [perform, val_map, snd_ofResult]
    exact deliverable?_attachDevice hm hnone fun hid => hfresh (congrArg some hid.symm)
  case install c d =>
    rw [perform, val_map, snd_ofResult]
    exact deliverable?_installDevice hm hnone fun hid => hfresh (congrArg some hid.symm)
  case installPic c | installPit c | installDma c =>
    rw [perform, val_map, snd_ofResult]
    exact deliverable?_installDevice hm hnone fun _ => rfl
  case installCmos c =>
    rw [perform, val_map, snd_ofResult]
    exact (Dozes.installCmos ⟨hm, hnone⟩).undelivered
  case installStandard c =>
    rw [perform, val_map, snd_ofResult]
    exact (Dozes.installStandardDevices ⟨hm, hnone⟩).undelivered
  case removeIoHandler c range =>
    simp only [perform, val_pure, removeIoHandler]
    cases live : m.registry.get? c with
    | none => exact hnone
    | some v =>
      refine deliverable?_of_set hnone live ?_ rfl
      exact fun _ hv => hv
  case removeService c number =>
    simp only [perform, val_pure, removeService]
    cases live : m.registry.get? c with
    | none => exact hnone
    | some v =>
      refine deliverable?_of_set hnone live ?_ rfl
      exact fun _ hv => hv
  case timerTick n => exact deliverable?_timerTick hm h n
  case grabIrq c irq =>
    rw [perform, val_map, snd_ofResult]
    exact deliverable?_grabIrq hnone irq
  case releaseIrq irq =>
    rw [← deliverable?_of_slots (slots_route m.registry irq none)] at hnone
    exact hnone
  case hardwareIrq irq =>
    rw [perform, val_map, snd_ofResult]
    exact deliverable?_hardwareIrq hm h irq
  case runShell line =>
    rw [perform, val_map, snd_ofShell]
    exact (h.runShell line).deliverable?

/-- An operation that leaves it to the session's guest whether to take an interrupt. -/
theorem deliverable?_perform (hm : Sound config m) (h : Asleep id m)
    (hop : op.subject? = some id → op.reachesGuest = false ∧ op.bringsFresh = true) :
    (m.perform op).val.2.deliverable? id = none := by
  cases hwork : op.work? m.clock m.ioTrace with
  | none => exact deliverable?_other hm h (fun hid => (hop hid).2) hwork
  | some found =>
    obtain ⟨c, work⟩ := found
    refine deliverable?_work hwork (fun _ => h.deliverable?) fun hid v hv => ?_
    obtain ⟨hplain, hnone⟩ := h v (hid ▸ hv)
    have hspares := (hop (hid ▸ subject?_of_work hwork)).1
    exact calm_work hwork hspares hplain (Vm.calm_of_deliverable? hnone)

/-- **No missed wake-up.** A guest that asks is left with nothing that could be delivered, or
dead. Any other operation leaves nothing deliverable where nothing was, unless it reaches for the
session's guest or brings requests along. -/
theorem no_missed_wakeup (hm : Reachable config m)
    (hplain : ∀ v, m.registry.get? id = some v → v.Plain) :
    (∀ op, op.offers = true → op.subject? = some id →
      (m.perform op).val.2.deliverable? id = none) ∧
    (m.deliverable? id = none →
      ∀ op, (op.subject? = some id → op.reachesGuest = false ∧ op.bringsFresh = true) →
        (m.perform op).val.2.deliverable? id = none) := by
  constructor
  · intro op hop hid
    obtain ⟨work, hwork⟩ : ∃ work, op.work? m.clock m.ioTrace = some (id, work) := by
      cases op <;> cases hop <;> cases hid <;> exact ⟨_, rfl⟩
    refine deliverable?_work hwork (fun hne => absurd rfl hne) fun _ v hv => ?_
    exact calm_offer hwork hop (hplain v hv)
  · intro hnone op hop
    have hasleep : Asleep id m := by
      intro v hv
      rw [deliverable?, hv] at hnone
      exact ⟨hplain v hv, hnone⟩
    exact deliverable?_perform hm.sound hasleep hop

/-- A line was raised while the guest might not be entered. Three operations then leave the
interrupt where it could be delivered. An interrupt through another vector does not, and neither
does the guest when it switches its interrupts on. -/
theorem wakeup_of_raised_line :
    let config : Config := { guestMemory := 0x500 }
    let id : VmId := ⟨0, 0⟩
    let resume : Guest.Action := .setResumable true
    ∃ m, Reachable config m ∧ (∀ v, m.registry.get? id = some v → v.Plain) ∧
      m.deliverable? id = none ∧
      (m.perform (.enableInterrupts id)).val.2.deliverable? id = none ∧
      (m.perform (.interrupt id 8)).val.2.deliverable? id = none ∧
      ∀ op ∈ [Op.setResumable id true, .withGuest id [resume], .dispatchService id 1],
        (m.perform op).val.2.deliverable? id = some (.master 1) := by
  intro config id resume
  let m₀ : Monitor :=
    { config, clock := { hz := config.tickHz }, registry := .ofSize config.maxVms }
  let ops : List Op :=
    [.create, .installPic id,
      .addService id { number := 1, name := "", actions := fun _ => [resume] },
      .setResumable id false, .enableInterrupts id, .raiseIrq id 1]
  have hreachable : Reachable config (m₀.run ops).val.2 := ⟨m₀, ops, rfl, rfl⟩
  have harena :
      ((m₀.run ops).val.2.registry.get? id).map Vm.arena = some [some (.pic .initial)] := by
    cbv
  have hplain : ∀ v, (m₀.run ops).val.2.registry.get? id = some v → v.Plain := by
    intro v hv
    rw [hv] at harena
    exact Vm.plain_of_arena (Option.some.inj harena)
  have hnone : (m₀.run ops).val.2.deliverable? id = none := by cbv
  obtain ⟨hasks, hother⟩ := no_missed_wakeup hreachable hplain
  refine ⟨_, hreachable, hplain, hnone, hasks _ rfl rfl, hother hnone _ fun _ => ⟨rfl, rfl⟩, ?_⟩
  simp only [List.forall_mem_cons]
  refine ⟨?_, ?_, ?_, List.forall_mem_nil _⟩
  · cbv
  · cbv
  · cbv

end RealModeMonitor.Monitor
