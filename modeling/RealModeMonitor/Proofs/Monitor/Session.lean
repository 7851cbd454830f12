import RealModeMonitor.Monitor.Op
import RealModeMonitor.Proofs.Vm.Notes

/-!
# Operations on one session

Most operations name a session, find it, work on it and put it back; if the work left the guest
faulted, the session dies. `Monitor.onSession` is this frame, and `Op.work?` says what each such
operation does inside it: a function of the session, the clock and the port trace, and of nothing
else of the monitor (`perform_work`). What is to be known of these operations is then asked of
their work: it keeps the session's name, arena and teardowns (`keeps_work`), and what it notes is
about the session (`notes_work`).
-/

namespace RealModeMonitor.Monitor

variable {α : Type} {m : Monitor} {id : VmId} {op : Op} {clock : Clock} {ioTrace : Bool}

/-! ## The frame -/

/-- What becomes of a session, and the reply. -/
abbrev Work := Vm → Traced (Reply × Vm)

/-- Work on a live session, which dies if its guest is faulted then. -/
def onSession (m : Monitor) (id : VmId) (work : Work) : Traced (Reply × Monitor) :=
  match m.registry.get? id with
  | none => pure (.failed (.noSuchVm id), m)
  | some v => do
    let (r, v) ← work v
    let m := { m with registry := m.registry.set id v }
    let m ← if v.guest.faulted then m.killFaulted id else pure m
    return (r, m)

def Reply.ofExcept (f : α → Reply) : Except MonitorError α → Reply
  | .ok a => f a
  | .error e => .failed e

namespace Work

/-- Work whose result is made a reply. -/
def replying (g : α → Reply) (f : Vm → Traced (Except MonitorError α × Vm)) : Work := fun v => do
  let (r, v) ← f v
  return (.ofExcept g r, v)

def updating (f : Vm → Vm) : Work := fun v => pure (.done, f v)

def trying (f : Vm → Except MonitorError Vm) : Work := fun v =>
  pure <| match f v with
    | .ok v => (.done, v)
    | .error e => (.failed e, v)

def inspecting (g : α → Reply) (f : Vm → Except MonitorError α) : Work := fun v =>
  pure (.ofExcept g (f v), v)

end Work

theorem ofResult_withVm (m : Monitor) (id : VmId) (g : α → Reply)
    (f : Vm → Traced (Except MonitorError α × Vm)) :
    Reply.ofResult g <$> m.withVm id f = m.onSession id (.replying g f) := by
  unfold withVm onSession Work.replying
  cases m.registry.get? id with
  | none => rfl
  | some v =>
    simp only [map_eq_pure_bind, bind_assoc, pure_bind]
    refine congrArg _ (funext fun x => ?_)
    obtain ⟨r, v⟩ := x
    dsimp only
    split
    all_goals
      simp only [bind_assoc, pure_bind]
      cases r <;> rfl

theorem onSession_eq_withVm (m : Monitor) (id : VmId) (work : Work) :
    m.onSession id work = Reply.ofResult (fun r => r) <$>
      m.withVm id fun v => (fun p => (.ok p.1, p.2)) <$> work v := by
  refine .trans (congrArg _ (funext fun v => ?_)) (m.ofResult_withVm id _ _).symm
  rw [Work.replying, bind_map_left]
  exact (bind_pure (work v)).symm

theorem ofResult_updateVm (m : Monitor) (id : VmId) (g : Unit → Reply) (f : Vm → Vm)
    (hg : g () = .done) : Reply.ofResult g <$> m.updateVm id f = m.onSession id (.updating f) := by
  refine (m.ofResult_withVm id g _).trans (congrArg _ (funext fun v => ?_))
  simp only [Work.replying, pure_bind, Reply.ofExcept, hg, Work.updating]

theorem ofResult_tryUpdateVm (m : Monitor) (id : VmId) (g : Unit → Reply)
    (f : Vm → Except MonitorError Vm) (hg : g () = .done) :
    Reply.ofResult g <$> m.tryUpdateVm id f = m.onSession id (.trying f) := by
  refine (m.ofResult_withVm id g _).trans (congrArg _ (funext fun v => ?_))
  unfold Work.replying Work.trying
  rw [pure_bind]
  cases f v with
  | ok v' => simp only [Reply.ofExcept, hg]
  | error e => rfl

theorem ofResult_inspectVm (m : Monitor) (id : VmId) (g : α → Reply)
    (f : Vm → Except MonitorError α) :
    Reply.ofResult g <$> m.inspectVm id f = m.onSession id (.inspecting g f) :=
  m.ofResult_withVm id g _

/-! ## The work of an operation -/

/-- The session's timer, brought up to date, and what is asked of it. -/
def timerWork (clock : Clock) (id : VmId) (g : α → Reply)
    (f : IntervalTimer → Except MonitorError α) : Work :=
  .replying g fun v => do
    let v ← v.syncTimer clock
    return match v.timer? with
      | some (_, t) => (f t, v)
      | none => (.error (.noSuchDevice id .pit), v)

/-- The session that an operation works on, and its work there. -/
def Op.work? (clock : Clock) (ioTrace : Bool) : Op → Option (VmId × Work)
  | .addKillHandler id name =>
    some (id, .updating fun v => { v with killHandlers := v.killHandlers ++ [.callback name] })
  | .bindTask id task => some (id, .updating fun v => { v with task := some task })
  | .addIoHandler id range device =>
    some (id, .trying fun v =>
      if v.hasDevice device then (v.io.add range device).map fun io => { v with io }
      else .error (.noSuchDevice id .any))
  | .ioIn id port operand =>
    some (id, .replying (fun (handled, bytes) => .input handled bytes) fun v => do
      let ((handled, bytes), v) ← v.readBytes clock port operand.width
      if ioTrace then
        Traced.tell (.portRead id port bytes handled)
      return (.ok (handled, bytes), v))
  | .ioOut id port operand =>
    some (id, .replying .output fun v => do
      let (handled, v) ← v.writeBytes clock port operand.bytes
      if ioTrace then
        Traced.tell (.portWrite id port operand.bytes handled)
      return (.ok handled, v))
  | .addService id s =>
    some (id, .trying fun v => (v.services.add s).map fun services => { v with services })
  | .dispatchService id number =>
    some (id, .replying .flag fun v => do
      let (found, services, guest) ← v.services.dispatch id number v.guest
      return (.ok found, { v with services, guest }))
  | .raiseIrq id line => some (id, .replying .irq (raiseOn id line))
  | .interrupt id vector =>
    some (id, .replying (fun _ => .done) fun v => do
      let (r, guest) ← v.guest.inject vector
      return (match r with
        | .ok () => .ok ()
        | .error e => .error (.ofInject id e), { v with guest }))
  | .enableInterrupts id =>
    some (id, .replying .delivery fun v => deliverOn id { v with guest := v.guest.setVif true })
  | .disableInterrupts id =>
    some (id, .updating fun v => { v with guest := v.guest.setVif false })
  | .guestIret id =>
    some (id, .replying .delivery fun v =>
      match v.guest.iret with
      | (.error e, guest) => pure (.error (.guestMemory e), { v with guest })
      | (.ok (), guest) => deliverOn id { v with guest })
  | .setResumable id on => some (id, .updating fun v => { v with guest.admitted := on })
  | .withGuest id actions =>
    some (id, .replying .guest fun v => do
      let (replies, guest) ← v.guest.run actions
      return (.ok replies, { v with guest }))
  | .controller id =>
    some (id, .inspecting .controller fun v =>
      match v.controller? with
      | some (_, c) => .ok c
      | none => .error (.noSuchDevice id .pic))
  | .timerChannel id n =>
    some (id, timerWork clock id .channel fun t =>
      match IntervalTimer.channelOf? n with
      | some i => .ok (t.channel i).view
      | none => .error (.device (.channelOutOfRange n)))
  | .timerChannels id => some (id, timerWork clock id .channels fun t => .ok t.views)
  | .watchTimer id n watcher =>
    some (id, .trying fun v =>
      match v.timer? with
      | none => .error (.noSuchDevice id .pit)
      | some (device, t) =>
        match t.watch n watcher with
        | .ok t => .ok (v.setDevice device (some (.pit t)))
        | .error e => .error (.device e))
  | .dmaProgram id n =>
    some (id, .inspecting .dma fun v =>
      match v.dma? with
      | none => .error (.noSuchDevice id .dma)
      | some (_, d) =>
        match d.program n with
        | .ok p => .ok p
        | .error e => .error (.device e))
  | .setDmaProgram id n p =>
    some (id, .trying fun v =>
      match v.dma? with
      | none => .error (.noSuchDevice id .dma)
      | some (device, d) =>
        match d.setProgram n p with
        | .ok d => .ok (v.setDevice device (some (.dma d)))
        | .error e => .error (.device e))
  | _ => none

/-- The session that an operation names. -/
def Op.subject? : Op → Option VmId
  | .kill id | .isAlive id | .addKillHandler id _ | .bindTask id _ | .attach id _ | .install id _
  | .installPic id | .installPit id | .installDma id | .installCmos id | .installStandard id
  | .addIoHandler id _ _ | .removeIoHandler id _ | .ioHandler id _ | .ioIn id _ _ | .ioOut id _ _
  | .addService id _ | .removeService id _ | .serviceName id _ | .dispatchService id _
  | .raiseIrq id _ | .interrupt id _ | .enableInterrupts id | .disableInterrupts id | .guestIret id
  | .setResumable id _ | .withGuest id _ | .grabIrq id _ | .controller id | .timerChannel id _
  | .timerChannels id | .watchTimer id _ _ | .dmaProgram id _ | .setDmaProgram id _ _ => some id
  | .create | .vmIds | .vmForTask _ | .summaries | .setIoTrace _ | .ioTrace | .timerTick _
  | .advanceClock _ | .now | .releaseIrq _ | .hardwareIrq _ | .openModule _ _ | .closeModule _
  | .expungeModule _ | .modules | .addShellCommands _ | .shellCommands | .runShell _ => none

theorem subject?_of_work {work : Work} (h : op.work? clock ioTrace = some (id, work)) :
    op.subject? = some id := by
  cases op <;> cases h <;> rfl

/-- **The frame and the work** are all of such an operation. -/
theorem perform_work {work : Work} (h : op.work? m.clock m.ioTrace = some (id, work)) :
    m.perform op = m.onSession id work := by
  cases op <;> cases h
  case addKillHandler | bindTask | disableInterrupts | setResumable =>
    exact m.ofResult_updateVm _ _ _ rfl
  case addIoHandler | addService | watchTimer | setDmaProgram =>
    exact m.ofResult_tryUpdateVm _ _ _ rfl
  case controller | dmaProgram => exact m.ofResult_inspectVm _ _ _
  case ioIn | ioOut | dispatchService | raiseIrq | interrupt | enableInterrupts | guestIret |
      withGuest | timerChannel | timerChannels =>
    exact m.ofResult_withVm _ _ _

/-! ## What the work keeps -/

section

variable {v : Vm} {work : Work}

/-- Operations that edit a session unless they are refused. -/
def Op.edits : Op → Bool
  | .addIoHandler _ _ _ | .addService _ _ | .watchTimer _ _ _ | .setDmaProgram _ _ _ => true
  | _ => false

/-- What such an operation makes of the session `v`. -/
inductive Edits (v : Vm) : Op → Vm → Prop where
  | refused {op : Op} : Edits v op v
  | routed {id : VmId} {range : PortRange} {device : DeviceId} {io : HandlerTable}
      (present : v.hasDevice device = true) (added : v.io.add range device = .ok io) :
      Edits v (.addIoHandler id range device) { v with io }
  | served {id : VmId} {s : Service} {services : ServiceTable}
      (added : v.services.add s = .ok services) : Edits v (.addService id s) { v with services }
  | watched {id : VmId} {n : UInt8} {watcher : Option String} {device : DeviceId}
      {t t' : IntervalTimer} (place : v.device? device = some (.pit t))
      (watches : t.watch n watcher = .ok t') :
      Edits v (.watchTimer id n watcher) (v.setDevice device (some (.pit t')))
  | programmed {id : VmId} {n : UInt8} {p : DmaProgram} {device : DeviceId}
      {d d' : DmaController} (place : v.device? device = some (.dma d))
      (sets : d.setProgram n p = .ok d') :
      Edits v (.setDmaProgram id n p) (v.setDevice device (some (.dma d')))

theorem edits_trying {f : Vm → Except MonitorError Vm} (h : ∀ v', f v = .ok v' → Edits v op v') :
    Edits v op (Work.trying f v).val.2 := by
  unfold Work.trying
  cases hf : f v with
  | ok v' => exact h v' hf
  | error e => exact .refused

/-- **An edit** is done, or it is refused and leaves the session as it was. -/
theorem edits_work (h : op.work? clock ioTrace = some (id, work)) (hop : op.edits = true) :
    Edits v op (work v).val.2 := by
  cases op <;> cases h <;> cases hop
  all_goals refine edits_trying fun v' hv' => ?_
  case addIoHandler range device =>
    split at hv'
    next hdevice =>
      cases hio : v.io.add range device with
      | ok io =>
        obtain rfl : { v with io } = v' := by simpa [hio, Except.map] using hv'
        exact .routed hdevice hio
      | error e => simp [hio, Except.map] at hv'
    next => cases hv'
  case addService s =>
    cases hservices : v.services.add s with
    | ok services =>
      obtain rfl : { v with services } = v' := by simpa [hservices, Except.map] using hv'
      exact .served hservices
    | error e => simp [hservices, Except.map] at hv'
  case watchTimer n watcher =>
    cases htimer : v.timer? with
    | none => simp [htimer] at hv'
    | some found =>
      obtain ⟨device, t⟩ := found
      cases hwatch : t.watch n watcher with
      | error e => simp [htimer, hwatch] at hv'
      | ok t' =>
        obtain rfl : v.setDevice device (some (.pit t')) = v' := by
          simpa [htimer, hwatch] using hv'
        obtain ⟨d, hd, ht⟩ := Vm.findDevice?_eq_some htimer
        cases d <;> cases ht
        exact .watched hd hwatch
  case setDmaProgram n p =>
    cases hdma : v.dma? with
    | none => simp [hdma] at hv'
    | some found =>
      obtain ⟨device, d⟩ := found
      cases hset : d.setProgram n p with
      | error e => simp [hdma, hset] at hv'
      | ok d' =>
        obtain rfl : v.setDevice device (some (.dma d')) = v' := by
          simpa [hdma, hset] using hv'
        obtain ⟨d, hd, hd'⟩ := Vm.findDevice?_eq_some hdma
        cases d <;> cases hd'
        exact .programmed hd hset

theorem Edits.edited {v' : Vm} (h : Edits v op v') : v.Edited v' := by
  cases h with
  | refused => exact .same
  | routed => exact .io _
  | served => exact .services _
  | watched place | programmed place => exact .device place rfl rfl

theorem edited_work (h : op.work? clock ioTrace = some (id, work)) (hop : op.edits = true) :
    v.Edited (work v).val.2 :=
  (edits_work h hop).edited

/-- Whatever is asked of a timer, the session ends where its timer is up to date. -/
theorem session_timerWork (g : α → Reply) (f : IntervalTimer → Except MonitorError α) :
    (timerWork clock id g f v).val.2 = (v.syncTimer clock).val := by
  unfold timerWork Work.replying
  simp only [Traced.val_bind, Traced.val_pure]
  split <;> rfl

theorem session_raiseOn (line : UInt8) : (raiseOn id line v).val.2 = (v.raise line).val.2 := by
  unfold raiseOn
  simp only [Traced.val_bind, Traced.val_pure]
  split <;> rfl

theorem keeps_timerWork (g : α → Reply) (f : IntervalTimer → Except MonitorError α) :
    v.Keeps (timerWork clock id g f v).val.2 := by
  rw [session_timerWork]
  exact v.keeps_syncTimer clock

theorem keeps_raiseOn (line : UInt8) : v.Keeps (raiseOn id line v).val.2 := by
  rw [session_raiseOn]
  exact v.keeps_raise line

theorem keeps_deliverOn (guest : Guest) : v.Keeps (deliverOn id { v with guest }).val.2 :=
  (v.keeps_guest guest).trans (Vm.keeps_deliver _)

/-- **Work keeps** the session's name, its arena and its teardowns. -/
theorem keeps_work (h : op.work? clock ioTrace = some (id, work)) (v : Vm) :
    v.Keeps (work v).val.2 := by
  refine if hedits : op.edits = true then (edited_work h hedits).keeps else ?_
  cases op <;> cases h
  case addIoHandler | addService | watchTimer | setDmaProgram => exact absurd rfl hedits
  case addKillHandler name =>
    refine ⟨rfl, rfl, ?_⟩
    simp [Vm.teardowns, Work.updating, KillHandler.device?]
  case bindTask | disableInterrupts | setResumable | controller | dmaProgram =>
    exact ⟨rfl, rfl, rfl⟩
  case ioIn port operand =>
    have h := v.keeps_readBytes clock port operand.width
    unfold Work.replying
    simp only [Traced.val_bind, Traced.val_pure]
    split <;> exact h
  case ioOut port operand =>
    have h := v.keeps_writeBytes clock port operand.bytes
    unfold Work.replying
    simp only [Traced.val_bind, Traced.val_pure]
    split <;> exact h
  case dispatchService number => exact ⟨rfl, rfl, rfl⟩
  case raiseIrq line => exact keeps_raiseOn line
  case interrupt vector => exact v.keeps_guest _
  case enableInterrupts => exact @keeps_deliverOn id v _
  case guestIret =>
    unfold Work.replying
    simp only [Traced.val_bind, Traced.val_pure]
    split
    · exact v.keeps_guest _
    · exact @keeps_deliverOn id v _
  case withGuest actions => exact v.keeps_guest _
  case timerChannel n => exact keeps_timerWork _ _
  case timerChannels => exact keeps_timerWork _ _

/-! ## What the work notes -/

open Traced

theorem notes_replying {g : α → Reply} {f : Vm → Traced (Except MonitorError α × Vm)}
    (h : (f v).Only (Note.AtWork v.id)) : (Work.replying g f v).Only (Note.AtWork v.id) :=
  .bind h (only_pure _)

theorem notes_timerWork (g : α → Reply) (f : IntervalTimer → Except MonitorError α) :
    (timerWork clock id g f v).Only (Note.AtWork v.id) :=
  notes_replying (.bind (v.notes_syncTimer clock) (only_pure _))

theorem notes_raiseOn (line : UInt8) : (raiseOn id line v).Only (Note.AtWork v.id) :=
  .bind (v.notes_raise line) (only_pure _)

theorem notes_deliverOn : (deliverOn id v).Only (Note.AtWork v.id) :=
  .bind v.notes_deliver (only_pure _)

/-- **Notes of the work** are about the session. -/
theorem notes_work (h : op.work? clock ioTrace = some (id, work)) (hid : v.id = id) :
    (work v).Only (Note.AtWork v.id) := by
  cases op <;> cases h
  case addKillHandler | bindTask | disableInterrupts | setResumable | controller | dmaProgram |
      addIoHandler | addService | watchTimer | setDmaProgram =>
    exact only_pure _
  case ioIn port operand =>
    exact notes_replying (.bind (v.notes_readBytes clock port operand.width)
      (.after (only_tell rfl) (only_pure _) (only_pure _)))
  case ioOut port operand =>
    exact notes_replying (.bind (v.notes_writeBytes clock port operand.bytes)
      (.after (only_tell rfl) (only_pure _) (only_pure _)))
  case dispatchService number =>
    refine notes_replying (.bind ?_ (only_pure _))
    rw [hid]
    exact v.services.notes_dispatch number v.guest
  case raiseIrq line => exact notes_replying (notes_raiseOn line)
  case interrupt vector =>
    exact notes_replying (.bind (v.guest.notes_inject vector).atWork (only_pure _))
  case enableInterrupts =>
    exact notes_replying (notes_deliverOn (v := { v with guest := v.guest.setVif true }))
  case guestIret =>
    refine notes_replying ?_
    split
    · exact only_pure _
    · next guest _ => exact notes_deliverOn (v := { v with guest })
  case withGuest actions =>
    exact notes_replying (.bind (v.guest.notes_run actions).atWork (only_pure _))
  case timerChannel n => exact notes_timerWork _ _
  case timerChannels => exact notes_timerWork _ _

end

/-! ## The registry afterwards -/

theorem registry_bury (m : Monitor) (id : VmId) :
    (m.bury id).val.2.registry = m.registry.remove id := by
  unfold bury
  cases h : m.registry.get? id with
  | none => simp only [Traced.val_pure, Registry.remove, h]
  | some v => rfl

theorem registry_killFaulted (m : Monitor) (id : VmId) :
    (m.killFaulted id).val.registry = m.registry.remove id :=
  m.registry_bury id

/-- The session's fate after work on it. -/
def survivor (v : Vm) : Option Vm := if v.guest.faulted then none else some v

/-- Work on one session reaches that session only. -/
theorem get?_withVm (m : Monitor) (id other : VmId) (f : Vm → Traced (Except MonitorError α × Vm)) :
    (m.withVm id f).val.2.registry.get? other =
      if other = id then (m.registry.get? id).bind fun v => survivor (f v).val.2
      else m.registry.get? other := by
  unfold withVm
  cases h : m.registry.get? id with
  | none =>
    show m.registry.get? other = _
    split
    next hid => rw [hid, h, Option.bind_none]
    next => rfl
  | some v =>
    have hset := Registry.get?_set h (f v).val.2
    have hlive : (m.registry.set id (f v).val.2).get? id = some (f v).val.2 := by
      rw [hset, if_pos rfl]
    simp only [Traced.val_bind, Option.bind_some, survivor]
    split
    next hfaulted =>
      simp only [Traced.val_bind, Traced.val_pure, registry_killFaulted]
      rw [Registry.get?_remove hlive, hset]
      split <;> rfl
    next hfaulted => exact hset other

end RealModeMonitor.Monitor
