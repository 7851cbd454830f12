import RealModeMonitor.Proofs.Monitor.Fate

/-!
# What operations come to

Of all operations, `create` starts a session, `kill` ends one without a fault, and `grabIrq` and
`releaseIrq` give a host line to another owner. Every other operation passes (`passes_perform`): it
ends the sessions of whose guests an interrupt or a return outside memory is told (`told`), and what
it adds to the teardown of the session it is on is read off its replies (`registers`).

The operations come in four kinds, with a lemma for each: those that do nothing to any session
(`passesAs_idle`), those that change a session in one go (`passesAs_change`), those that attach
devices (`Installs`), and those that let guests run on (`Goes`).
-/

namespace RealModeMonitor

open Traced

variable {α β : Type} {config : Config} {m m' : Monitor} {b c id : VmId} {v v' : Vm} {d : Device}

/-! ## Looking at a session -/

theorem Registry.set_self {r : Registry} (h : r.get? id = some v) : r.set id v = r := by
  obtain ⟨hlt, hslot⟩ := Array.getElem?_eq_some_iff.1 (get?_eq_some_iff.1 h)
  rw [set_eq h, put, ← hslot, Array.setIfInBounds_def, dif_pos hlt, Array.set_getElem_self]

namespace Monitor

variable {op : Op} {clock : Clock} {ioTrace : Bool} {work : Work}

/-- Work that leaves a session of a settled monitor as it was changes nothing. -/
theorem withVm_same {f : Vm → Traced (Except MonitorError α × Vm)} {r : Except MonitorError α}
    (hm : Settled config m) (live : m.registry.get? c = some v) (hf : f v = pure (r, v)) :
    m.withVm c f = pure (r, m) := by
  simp [withVm, live, hf, Registry.set_self live, hm.unfaulted c v live]

theorem inspectVm_eq (hm : Settled config m) (c : VmId) (f : Vm → Except MonitorError α) :
    m.inspectVm c f = pure ((m.registry.get? c).elim (.error (.noSuchVm c)) f, m) := by
  unfold inspectVm
  cases live : m.registry.get? c with
  | none => exact withVm_dead live _
  | some v => exact withVm_same hm live rfl

/-! ## Attaching and installing -/

/-- The step of the teardown that goes with a device. -/
def teardownOf : Except MonitorError DeviceId → List KillHandler
  | .ok device => [.device device]
  | .error _ => []

/-- A piece that attaches devices to session `c`, or fails for reasons of its own. -/
structure Installs (config : Config) (m : Monitor) (x : Traced (Except MonitorError α × Monitor))
    (c : VmId) (added : List KillHandler) : Prop extends
    Passes config m x (fun b => if b = c then added else []) (fun _ => false) where
  silent : ∀ b, x.heard b = []
  errors : ∀ e, x.val.1 = .error e → e.isStray = false

theorem installs_refused (hm : Settled config m) (c : VmId) {e : MonitorError}
    (he : e.isStray = false) :
    Installs config m (pure (.error e, m) : Traced (Except MonitorError α × Monitor)) c [] where
  toPasses := (passes_pure hm _).congr (fun b => (ite_self []).symm) fun _ => rfl
  silent _ := rfl
  errors e' h := by
    cases h
    exact he

theorem Installs.bind {x : Traced (Except MonitorError α × Monitor)}
    {f : Except MonitorError α × Monitor → Traced (Except MonitorError β × Monitor)}
    {added added' : List KillHandler} (hm : Settled config m) (hx : Installs config m x c added)
    (hf : Installs config x.val.2 (f x.val) c added') :
    Installs config m (x >>= f) c (added ++ added') where
  toPasses := by
    refine (hx.toPasses.bind hm.toSound hf.toPasses nofun).congr (fun b => ?_) fun _ => rfl
    split <;> rfl
  silent b := by
    rw [heard_bind, hx.silent, hf.silent]
    rfl
  errors := hf.errors

theorem notes_attachDevice (m : Monitor) (c : VmId) (d : Device) :
    (m.attachDevice c d).Only Note.IsRemark := by
  unfold attachDevice
  split
  · exact only_pure _
  · refine .bind (notes_openForDevice _ _) ?_
    rcases (openForDevice m.modules d.kind).val with ⟨e | _, modules⟩
    · exact only_pure _
    · exact .bind (only_remark rfl) (only_pure _)

theorem installs_attachDevice (hm : Settled config m) (c : VmId) (d : Device) :
    Installs config m (m.attachDevice c d) c (teardownOf (m.attachDevice c d).val.1) := by
  cases live : m.registry.get? c with
  | none =>
    rw [attachDevice, live]
    exact installs_refused hm c rfl
  | some v =>
    obtain ⟨-, modules, hval⟩ := attachDevice_live hm.toSound live d
    have hsound : Sound config (m.attachDevice c d).val.2 :=
      hm.toSound.steps (m.evolves_attachDevice c d).steps
    have hsilent : ∀ b, (m.attachDevice c d).heard b = [] :=
      fun b => (m.notes_attachDevice c d).not_heard
    refine { toPasses := ?_, silent := hsilent, errors := fun e he => ?_ }
    · have hregistry := congrArg (fun y => y.2.registry) hval
      rw [hval]
      exact passes_put hm hsound live hregistry hsilent (v.course_attach d) rfl
    · rw [hval] at he
      cases he

theorem notes_installDevice (m : Monitor) (c : VmId) (d : Device) :
    (m.installDevice c d).Only Note.IsRemark := by
  unfold installDevice
  split
  · exact only_pure _
  next v _ =>
    refine .bind (notes_openForDevice _ _) ?_
    rcases (openForDevice m.modules d.kind).val with ⟨e | _, modules⟩
    · exact only_pure _
    · dsimp only
      cases (v.install d).1 with
      | ok device => exact .bind (only_remark rfl) (only_pure _)
      | error e => exact .bind (notes_closeForDevice _ _) (.bind (only_remark rfl) (only_pure _))

theorem course_install (hv : v.Swept) (d : Device) :
    v.Course (teardownOf (v.install d).1) (v.install d).2 := by
  obtain ⟨io, hadd, hinstall⟩ | ⟨e, io, hadd, hinstall⟩ := v.install_cases d
  all_goals rw [hinstall]
  · exact v.course_routed d (congrArg Prod.snd hadd)
  · exact hv.course_retract d (congrArg Prod.snd hadd)

theorem isStray_of_addAll {t : HandlerTable} {device : DeviceId} {ranges : List PortRange}
    {e : MonitorError} (h : (t.addAll device ranges).1 = .error e) : e.isStray = false := by
  induction ranges generalizing t with
  | nil => cases h
  | cons range ranges ih =>
    cases hadd : t.add range device with
    | error e' =>
      rw [HandlerTable.addAll_cons_of_error hadd] at h
      cases h
      exact isStray_of_add hadd
    | ok t' =>
      rw [HandlerTable.addAll_cons_of_ok hadd] at h
      exact ih h

theorem isStray_of_install {e : MonitorError} (h : (v.install d).1 = .error e) :
    e.isStray = false := by
  obtain ⟨io, -, hinstall⟩ | ⟨e', io, hadd, hinstall⟩ := v.install_cases d
  all_goals rw [hinstall] at h; cases h
  exact isStray_of_addAll (congrArg Prod.fst hadd)

theorem guest_install (v : Vm) (d : Device) : (v.install d).2.guest = v.guest := by
  obtain ⟨io, -, hinstall⟩ | ⟨e, io, -, hinstall⟩ := v.install_cases d
  all_goals rw [hinstall]; rfl

theorem installs_installDevice (hm : Settled config m) (c : VmId) (d : Device) :
    Installs config m (m.installDevice c d) c (teardownOf (m.installDevice c d).val.1) := by
  cases live : m.registry.get? c with
  | none =>
    rw [installDevice, live]
    exact installs_refused hm c rfl
  | some v =>
    obtain ⟨-, modules, hval⟩ := installDevice_live hm.toSound live d
    have hsound : Sound config (m.installDevice c d).val.2 :=
      hm.toSound.steps (m.evolves_installDevice c d).steps
    have hsilent : ∀ b, (m.installDevice c d).heard b = [] :=
      fun b => (m.notes_installDevice c d).not_heard
    refine { toPasses := ?_, silent := hsilent, errors := fun e he => ?_ }
    · have hregistry := congrArg (fun y => y.2.registry) hval
      rw [hval]
      exact passes_put hm hsound live hregistry hsilent (course_install (hm.swept c v live) d)
        (guest_install v d)
    · rw [hval] at he
      exact isStray_of_install he

theorem installs_installCmos (hm : Settled config m) (c : VmId) :
    Installs config m (m.installCmos c) c (teardownOf (m.installCmos c).val.1) := by
  rw [installCmos, inspectVm_eq hm, pure_bind]
  cases live : m.registry.get? c with
  | none => exact installs_refused hm c rfl
  | some v => exact installs_installDevice hm c _

/-- The devices that operations attach, in order up to the first that fails. -/
def attached (m : Monitor) : List Op → List KillHandler
  | [] => []
  | op :: rest =>
    match (m.perform op).val with
    | (.device device, m) => .device device :: attached m rest
    | _ => []

theorem attached_cons {f : Monitor → Traced (Except MonitorError DeviceId × Monitor)}
    (h : m.perform op = Reply.ofResult .device <$> f m) (ops : List Op) :
    m.attached (op :: ops) =
      match (f m).val with
      | (.ok device, m) => .device device :: m.attached ops
      | (.error _, _) => [] := by
  rw [attached, h, val_map]
  rcases (f m).val with ⟨e | device, m⟩ <;> rfl

/-- Operations in order attach what each of them does. -/
theorem installs_inOrder {fs : List (Monitor → Traced (Except MonitorError DeviceId × Monitor))}
    {ops : List Op}
    (hperform : List.Forall₂
      (fun f op => ∀ m, m.perform op = Reply.ofResult .device <$> f m) fs ops)
    (hinstalls : ∀ f ∈ fs, ∀ m, Settled config m →
      Installs config m (f m) c (teardownOf (f m).val.1))
    (hm : Settled config m) : Installs config m (m.inOrder fs) c (m.attached ops) := by
  induction hperform generalizing m with
  | nil =>
    exact
      { toPasses := (passes_pure hm _).congr (fun b => (ite_self []).symm) fun _ => rfl
        silent := fun _ => rfl
        errors := nofun }
  | @cons f op fs ops hop _ ih =>
    obtain ⟨hf, hfs⟩ := List.forall_mem_cons.1 hinstalls
    have hfirst := hf m hm
    have hnext := hfirst.toPasses.settled hm
    have hadded : m.attached (op :: ops) = teardownOf (f m).val.1 ++
        match (f m).val with
        | (.ok _, m) => m.attached ops
        | (.error _, _) => [] := by
      rw [attached_cons (hop m)]
      rcases (f m).val with ⟨e | device, m'⟩ <;> rfl
    rw [hadded, inOrder]
    refine hfirst.bind hm ?_
    have herrors := hfirst.errors
    rcases hval : (f m).val with ⟨e | device, m'⟩
    all_goals rw [hval] at hnext
    · exact installs_refused hnext c (herrors e (by rw [hval]))
    · exact ih hfs hnext

/-- The installations that `installStandard` stands for. -/
def standardInstalls (id : VmId) : List Op :=
  [.installPic id, .installPit id, .installDma id, .installCmos id]

theorem installs_installStandardDevices (hm : Settled config m) (c : VmId) :
    Installs config m (m.installStandardDevices c) c (m.attached (standardInstalls c)) := by
  refine installs_inOrder ?_ ?_ hm
  · exact .cons (fun _ => rfl) (.cons (fun _ => rfl) (.cons (fun _ => rfl)
      (.cons (fun _ => rfl) .nil)))
  · simp only [List.forall_mem_cons, List.not_mem_nil, false_imp_iff, implies_true, and_true]
    exact ⟨fun _ hm => installs_installDevice hm c _, fun _ hm => installs_installDevice hm c _,
      fun _ hm => installs_installDevice hm c _, fun _ hm => installs_installCmos hm c⟩

/-! ## What is told, and what is added -/

/-- Whether an interrupt or a return of the guest of `b` outside memory is told: by the notes, or by
the reply if the operation is on `b`. -/
def told (b : VmId) (op : Op) (x : Traced (Reply × Monitor)) : Bool :=
  x.strays b || (op.subject? = some b && x.val.1.isStray)

/-- The operations that each attach a device, as which an operation on devices is carried out. -/
def Op.installs : Op → List Op
  | .attach id d => [.attach id d]
  | .install id d => [.install id d]
  | .installPic id => [.installPic id]
  | .installPit id => [.installPit id]
  | .installDma id => [.installDma id]
  | .installCmos id => [.installCmos id]
  | .installStandard id => standardInstalls id
  | _ => []

/-- The steps that an operation adds to the teardown of its session. -/
def registers (m : Monitor) : Op → List KillHandler
  | .addKillHandler id name => if m.isAlive id then [.callback name] else []
  | op => m.attached op.installs

theorem isStray_ofResult (g : α → Reply) (y : Except MonitorError α × Monitor)
    (hg : ∀ a, (g a).isStray = false) (herror : ∀ e, y.1 = .error e → e.isStray = false) :
    (Reply.ofResult g y).1.isStray = false := by
  obtain ⟨e | a, m⟩ := y
  · exact herror e rfl
  · exact hg a

/-- A piece that adds nothing to teardowns, and ends the sessions of which something stray is
told. -/
def Goes (config : Config) (m : Monitor) (x : Traced (α × Monitor)) : Prop :=
  Passes config m x (fun _ => []) fun b => x.strays b

theorem goes_pure (hm : Settled config m) (a : α) : Goes config m (pure (a, m)) :=
  passes_pure hm a

theorem Goes.bind {x : Traced (α × Monitor)} {f : α × Monitor → Traced (β × Monitor)}
    (hm : Settled config m) (hx : Goes config m x)
    (hf : Settled config x.val.2 → Goes config x.val.2 (f x.val)) : Goes config m (x >>= f) :=
  (Passes.bind hm.toSound hx (hf (hx.settled hm)) fun _ _ => rfl).congr (fun _ => rfl)
    fun _ => (strays_bind x f).symm

theorem Goes.map {x : Traced (α × Monitor)} (hx : Goes config m x) {g : α × Monitor → β × Monitor}
    (hg : ∀ y, (g y).2 = y.2) : Goes config m (g <$> x) :=
  (Passes.map hx hg).congr (fun _ => rfl) fun _ => (strays_map g x).symm

theorem goes_withVm {g : Vm → Traced (Except MonitorError α × Vm)} (hm : Settled config m)
    (hserves : ∀ v, v.id = c → Serves v (g v) fun _ => false) : Goes config m (m.withVm c g) :=
  (passes_withVm hm rfl hserves).congr (fun _ => rfl) fun b => by simp

/-! ## Host lines -/

theorem serves_raiseOn (id : VmId) (v : Vm) (line : UInt8) :
    Serves v (raiseOn id line v) fun _ => false where
  keeps := keeps_raiseOn line
  course := by
    refine (keeps_raiseOn line).course ?_
    rw [session_raiseOn]
    exact v.fittings_raise line
  notes := notes_raiseOn line
  faulted := by
    rw [Bool.or_false]
    exact reports_raiseOn line

/-- **A host line** does what the same line of its owner does. An owner without a controller is left
alone either way, because its guest is not faulted. -/
theorem hardwareIrq_owned (hm : Settled config m) {irq : UInt8}
    (howner : m.registry.irqOwner? irq = some c) :
    m.hardwareIrq irq = (fun y => (y.1.map some, y.2)) <$> m.raiseIrq c irq := by
  obtain ⟨hnone, -⟩ | ⟨c', howner', h⟩ := hardwareIrq_cases hm.toSound irq
  · cases hnone.symm.trans howner
  · obtain rfl := Option.some.inj (howner.symm.trans howner')
    obtain h | ⟨v, live, hc, h⟩ := h
    · exact h
    · have hidle : raiseOn c irq v = pure (.error (.noSuchDevice c .pic), v) := by
        simp only [raiseOn, Vm.raise, hc, pure_bind]
      rw [h, raiseIrq, withVm_same hm live hidle]
      rfl

theorem hardwareIrq_unowned {irq : UInt8} (howner : m.registry.irqOwner? irq = none) :
    m.hardwareIrq irq = pure (.ok none, m) := by
  simp only [hardwareIrq, howner]

theorem goes_hardwareIrq (hm : Settled config m) (irq : UInt8) :
    Goes config m (m.hardwareIrq irq) := by
  cases howner : m.registry.irqOwner? irq with
  | none =>
    rw [hardwareIrq_unowned howner]
    exact goes_pure hm _
  | some c =>
    rw [hardwareIrq_owned hm howner]
    exact (goes_withVm hm fun v _ => serves_raiseOn c v irq).map fun _ => rfl

/-! ## Shell commands -/

theorem controllerReport_eq (hm : Settled config m) (id : VmId) :
    ∃ text, m.controllerReport id = pure (text, m) := by
  unfold controllerReport controllerOf
  rw [inspectVm_eq hm, pure_bind]
  dsimp only
  split <;> exact ⟨_, rfl⟩

theorem goes_controllerReport (hm : Settled config m) (id : VmId) :
    Goes config m (m.controllerReport id) := by
  obtain ⟨text, htext⟩ := controllerReport_eq hm id
  rw [htext]
  exact goes_pure hm text

theorem serves_inspectTimer (id : VmId) (k : Clock) (f : IntervalTimer → Except MonitorError α)
    (v : Vm) :
    Serves v (do
      let v ← v.syncTimer k
      return match v.timer? with
        | some (_, t) => (f t, v)
        | none => (.error (.noSuchDevice id .pit), v)) fun _ => false where
  keeps := by
    have h := v.keeps_syncTimer k
    simp only [val_bind, val_pure]
    split <;> exact h
  course := by
    have h := (v.keeps_syncTimer k).course (v.fittings_syncTimer k)
    simp only [val_bind, val_pure]
    split <;> exact h
  notes := .bind (v.notes_syncTimer k) (only_pure _)
  faulted := by
    have h := v.reports_syncTimer k
    simp only [val_bind, val_pure, strays_bind, strays_pure, Bool.or_false]
    split <;> exact h

theorem goes_timerReport (hm : Settled config m) (id : VmId) :
    Goes config m (m.timerReport id) := by
  refine (goes_withVm hm fun v _ => serves_inspectTimer id m.clock _ v).bind hm fun hm => ?_
  dsimp only
  split <;> exact goes_pure hm _

theorem composable_goes :
    Composable fun {α} m (x : Traced (α × Monitor)) => Settled config m → Goes config m x where
  pure _ a hm := goes_pure hm a
  bind hx hf hm := (hx hm).bind hm hf

theorem goes_sessionReport (hm : Settled config m) (o : ReportOptions) (s : VmSummary) :
    Goes config m (sessionReport o m s) :=
  composable_goes.sessionReport (fun _ id hm => goes_controllerReport hm id)
    (fun _ _ hm => goes_timerReport hm s.id) m hm

theorem goes_setIoTrace (hm : Settled config m) (on : Bool) (a : α) :
    Goes config m (pure (a, m.setIoTrace on)) :=
  passes_idle hm (hm.toSound.step (.elsewhere rfl rfl rfl)) rfl fun _ => rfl

theorem goes_runShell (hm : Settled config m) (line : String) : Goes config m (m.runShell line) :=
  composable_goes.runShell (fun _ id hm => goes_controllerReport hm id)
    (fun _ id hm => goes_timerReport hm id) (fun _ r on hm => goes_setIoTrace hm on r) m line hm

/-! ## Every operation -/

/-- Operations at which nobody comes, nobody dies without a fault, and no host line changes hands.
-/
def Op.passes : Op → Bool
  | .create | .kill _ | .grabIrq _ _ | .releaseIrq _ => false
  | _ => true

/-- Work on one session. -/
theorem passes_work {work : Work} (hm : Settled config m)
    (h : op.work? m.clock m.ioTrace = some (c, work)) (hadds : op.adds = false) :
    Passes config m (m.perform op) (fun _ => []) fun b => told b op (m.perform op) := by
  let answered : Except MonitorError Reply → Bool
    | .ok r => r.isStray
    | .error e => e.isStray
  have hserves : ∀ v, v.id = c → Serves v ((fun p => (.ok p.1, p.2)) <$> work v) answered :=
    fun v hv => (op.serves_work h hadds hv).map (fun _ => rfl) fun _ => rfl
  have hsubject : op.subject? = some c := subject?_of_work h
  have hperform : m.perform op = Reply.ofResult (fun r => r) <$>
      m.withVm c fun v => (fun p => (.ok p.1, p.2)) <$> work v := by
    rw [perform_work h, onSession_eq_withVm]
  rw [hperform]
  refine ((passes_withVm hm rfl hserves).map (snd_ofResult _)).congr (fun _ => rfl) fun b => ?_
  have hreply : ∀ y : Except MonitorError Reply × Monitor,
      (Reply.ofResult (fun r => r) y).1.isStray = answered y.1 := by
    rintro ⟨e | r, m⟩ <;> rfl
  rw [told, strays_map, val_map, hreply, hsubject]
  simp [eq_comm]

theorem Sound.perform (hm : Sound config m) (op : Op) : Sound config (m.perform op).val.2 :=
  hm.steps (remembered_perform hm op).steps

/-- What becomes of the sessions at an operation: steps are added to the teardown of its own
session, and the sessions end of which something stray is told. -/
def PassesAs (config : Config) (m : Monitor) (op : Op) : Prop :=
  Passes config m (m.perform op) (fun b => if op.subject? = some b then m.registers op else [])
    fun b => told b op (m.perform op)

theorem passesAs_of_silent (hx : Passes config m (m.perform op)
      (fun b => if op.subject? = some b then m.registers op else []) fun _ => false)
    (hsilent : ∀ b, (m.perform op).heard b = [])
    (hreply : op.subject? ≠ none → (m.perform op).val.1.isStray = false) :
    PassesAs config m op := by
  refine hx.congr (fun _ => rfl) fun b => ?_
  rw [told, strays_of_silent (hsilent b)]
  cases hsubject : op.subject? with
  | none => rfl
  | some c => rw [hreply (by rw [hsubject]; nofun), Bool.and_false]; rfl

/-- Nothing happens to any session. -/
theorem passesAs_idle (hm : Settled config m) (hregisters : m.registers op = [])
    (hregistry : (m.perform op).val.2.registry = m.registry)
    (hnotes : (m.perform op).Only Note.IsRemark)
    (hreply : op.subject? ≠ none → (m.perform op).val.1.isStray = false) :
    PassesAs config m op := by
  have hsilent : ∀ b, (m.perform op).heard b = [] := fun b => hnotes.not_heard
  refine passesAs_of_silent ?_ hsilent hreply
  refine (passes_idle hm (hm.toSound.perform op) hregistry hsilent).congr (fun b => ?_) fun _ => rfl
  rw [hregisters, ite_self]

theorem passesAs_of_idle (hm : Settled config m) (h : op.isIdle = true) : PassesAs config m op := by
  refine passesAs_idle hm ?_ (registry_of_idle h m) (notes_of_idle h m) fun hsubject => ?_
  · cases op <;> cases h <;> rfl
  · cases op <;> cases h <;> first | rfl | exact absurd rfl hsubject

/-- A session is changed if it lives. -/
theorem passesAs_change (refusal : Reply) (change : Vm → Vm) (added : List KillHandler)
    (hm : Settled config m) (hsubject : op.subject? = some c)
    (hregisters : m.registers op = if m.isAlive c then added else [])
    (hdead : m.registry.get? c = none → m.perform op = pure (refusal, m))
    (hrefusal : refusal.isStray = false)
    (hlive : ∀ v, m.registry.get? c = some v →
      m.perform op = pure (.done, { m with registry := m.registry.set c (change v) }))
    (hcourse : ∀ v : Vm, v.Course added (change v)) (hguest : ∀ v, (change v).guest = v.guest) :
    PassesAs config m op := by
  have halive : m.isAlive c = (m.registry.get? c).isSome := rfl
  cases live : m.registry.get? c with
  | none =>
    have hperform := hdead live
    refine passesAs_idle hm ?_ ?_ ?_ fun _ => ?_
    · rw [hregisters, halive, live]
      rfl
    all_goals rw [hperform]
    · rfl
    · exact only_pure _
    · exact hrefusal
  | some v =>
    have hperform := hlive v live
    have hsound := hm.toSound.perform op
    have hput := passes_put (x := m.perform op) hm hsound live (by rw [hperform]; rfl)
      (fun _ => by rw [hperform]; rfl) (hcourse v) (hguest v)
    refine passesAs_of_silent (hput.congr (fun b => ?_) fun _ => rfl) (fun b => ?_) fun _ => ?_
    · rw [hsubject, hregisters, halive, live]
      simp [eq_comm]
    all_goals rw [hperform]
    · rfl
    · rfl

theorem passesAs_installs {x : Traced (Except MonitorError α × Monitor)} {g : α → Reply}
    {added : List KillHandler} (hx : Installs config m x c added)
    (hperform : m.perform op = Reply.ofResult g <$> x) (hg : ∀ a, (g a).isStray = false)
    (hsubject : op.subject? = some c) (hregisters : m.registers op = added) :
    PassesAs config m op := by
  refine passesAs_of_silent ?_ (fun b => ?_) fun _ => ?_
  all_goals rw [hperform]
  · refine (hx.toPasses.map (snd_ofResult g)).congr (fun b => ?_) fun _ => rfl
    rw [hsubject, hregisters]
    simp [eq_comm]
  · rw [heard_map, hx.silent]
  · rw [val_map]
    exact isStray_ofResult g _ hg hx.errors

theorem attached_one {f : Monitor → Traced (Except MonitorError DeviceId × Monitor)}
    (h : m.perform op = Reply.ofResult .device <$> f m) :
    m.attached [op] = teardownOf (f m).val.1 := by
  rw [attached_cons h]
  rcases (f m).val with ⟨e | device, m⟩ <;> rfl

theorem passesAs_addKillHandler (hm : Settled config m) (c : VmId) (name : String) :
    PassesAs config m (.addKillHandler c name) := by
  have hperform : m.perform (.addKillHandler c name) = m.onSession c _ := perform_work rfl
  refine passesAs_change (.failed (.noSuchVm c))
    (fun v => { v with killHandlers := v.killHandlers ++ [.callback name] }) [.callback name]
    hm rfl rfl (fun dead => ?_) rfl (fun v live => ?_) (fun v => ?_) fun _ => rfl
  · rw [hperform, onSession, dead]
  · rw [hperform]
    simp [onSession, live, Work.updating, hm.unfaulted c v live]
  · exact ⟨rfl, List.prefix_refl _, rfl, fun hv => hv, [], rfl⟩

theorem passesAs_removeIoHandler (hm : Settled config m) (c : VmId) (range : PortRange) :
    PassesAs config m (.removeIoHandler c range) := by
  refine passesAs_change .done (fun v => { v with io := (v.io.remove range).2 }) []
    hm rfl (ite_self []).symm (fun dead => ?_) rfl (fun v live => ?_) (fun v => ?_) fun _ => rfl
  · simp [perform, removeIoHandler, dead]
  · simp [perform, removeIoHandler, live]
  · refine ⟨rfl, List.prefix_refl _, (List.append_nil _).symm, fun hv => ?_, [.remove range], rfl⟩
    exact hv.mono (List.prefix_refl _) fun e he => .inl (HandlerTable.mem_remove range he)

theorem passesAs_removeService (hm : Settled config m) (c : VmId) (number : UInt8) :
    PassesAs config m (.removeService c number) := by
  refine passesAs_change .done (fun v => { v with services := v.services.remove number }) []
    hm rfl (ite_self []).symm (fun dead => ?_) rfl (fun v live => ?_) (fun v => ?_) fun _ => rfl
  · simp [perform, removeService, dead]
  · simp [perform, removeService, live]
  · exact ⟨rfl, List.prefix_refl _, (List.append_nil _).symm, fun hv => hv, [], rfl⟩

/-- An operation that is on no session goes. -/
theorem Goes.passesAs (hx : Goes config m (m.perform op)) (hsubject : op.subject? = none)
    (hregisters : m.registers op = []) : PassesAs config m op := by
  refine hx.congr (fun b => ?_) fun b => ?_
  · rw [hregisters, ite_self]
  · rw [told, hsubject]
    exact (Bool.or_false _).symm

theorem passesAs_other {clock : Clock} {ioTrace : Bool} (hm : Settled config m)
    (hwork : op.work? clock ioTrace = none) (hpasses : op.passes = true) :
    PassesAs config m op := by
  cases op <;> cases hwork <;> cases hpasses
  case isAlive | vmIds | vmForTask | summaries | ioHandler | serviceName | setIoTrace | ioTrace |
      advanceClock | now | openModule | closeModule | expungeModule | modules | addShellCommands |
      shellCommands =>
    exact passesAs_of_idle hm rfl
  case attach id d =>
    exact passesAs_installs (installs_attachDevice hm id d) rfl (fun _ => rfl) rfl
      (attached_one (f := (·.attachDevice id d)) rfl)
  case install id d =>
    exact passesAs_installs (installs_installDevice hm id d) rfl (fun _ => rfl) rfl
      (attached_one (f := (·.installDevice id d)) rfl)
  case installPic id =>
    exact passesAs_installs (installs_installDevice hm id _) rfl (fun _ => rfl) rfl
      (attached_one (f := (·.installPic id)) rfl)
  case installPit id =>
    exact passesAs_installs (installs_installDevice hm id _) rfl (fun _ => rfl) rfl
      (attached_one (f := (·.installPit id)) rfl)
  case installDma id =>
    exact passesAs_installs (installs_installDevice hm id _) rfl (fun _ => rfl) rfl
      (attached_one (f := (·.installDma id)) rfl)
  case installCmos id =>
    exact passesAs_installs (installs_installCmos hm id) rfl (fun _ => rfl) rfl
      (attached_one (f := (·.installCmos id)) rfl)
  case installStandard id =>
    exact passesAs_installs (installs_installStandardDevices hm id) rfl (fun _ => rfl) rfl rfl
  case removeIoHandler id range => exact passesAs_removeIoHandler hm id range
  case removeService id number => exact passesAs_removeService hm id number
  case timerTick n => exact Goes.passesAs (passes_timerTick hm n) rfl rfl
  case hardwareIrq irq =>
    exact Goes.passesAs ((goes_hardwareIrq hm irq).map (snd_ofResult _)) rfl rfl
  case runShell line => exact Goes.passesAs ((goes_runShell hm line).map (snd_ofShell _)) rfl rfl

/-- **Every operation** but four passes. -/
theorem passes_perform (hm : Settled config m) (hpasses : op.passes = true) :
    PassesAs config m op := by
  cases hwork : op.work? m.clock m.ioTrace with
  | none => exact passesAs_other hm hwork hpasses
  | some found =>
    obtain ⟨c, work⟩ := found
    cases hadds : op.adds with
    | true =>
      cases op <;> cases hadds
      exact passesAs_addKillHandler hm _ _
    | false =>
      have hregisters : m.registers op = [] := by
        cases op <;> cases hwork <;> cases hadds <;> rfl
      refine (passes_work hm hwork hadds).congr (fun b => ?_) fun _ => rfl
      rw [hregisters, ite_self]

end Monitor
end RealModeMonitor
