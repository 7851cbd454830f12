import Mathlib
import RealModeMonitor.Proofs.Monitor.Session
import RealModeMonitor.Proofs.Vm.Course
import RealModeMonitor.Proofs.Vm.Fault

/-!
# What work does to its session

The operations that work on one session differ in what they ask of it, and agree in what they leave
behind (`Op.serves_work`): its arena and the steps of its teardown are as they were, each of its
routes leads to a device that is there, and if its guest is faulted that it was not before, then an
interrupt or a return outside memory is told, by a note or by the reply.

Registering a kill handler is the one exception, as it adds a step to the teardown.
-/

namespace RealModeMonitor

open Traced

/-! ## Stray replies -/

def MonitorError.isStray : MonitorError → Bool
  | guestMemory _ => true
  | _ => false

theorem MonitorError.isStray_ofInject (vm : VmId) (e : InjectError) :
    (ofInject vm e).isStray = e.isStray := by
  cases e <;> rfl

theorem Vm.Edited.guest {v v' : Vm} (h : v.Edited v') : v'.guest = v.guest := by
  cases h <;> rfl

namespace Monitor

variable {α β : Type} {id : VmId} {op : Op} {clock : Clock} {ioTrace : Bool} {v : Vm} {work : Work}

/-- Whether a reply tells of an interrupt or a return outside memory. -/
def Reply.isStray : Reply → Bool
  | guest rs => rs.any Guest.Reply.isStray
  | failed e => e.isStray
  | _ => false

/-- What `x` makes of the session `v`, if it adds nothing to its teardown. -/
structure Serves (v : Vm) (x : Traced (α × Vm)) (told : α → Bool) : Prop where
  keeps : v.Keeps x.val.2
  course : v.Course [] x.val.2
  notes : x.Only (Note.AtWork v.id)
  faulted : x.val.2.guest.faulted = (v.guest.faulted || (x.strays v.id || told x.val.1))

theorem Serves.map {x : Traced (α × Vm)} {told : α → Bool} {told' : β → Bool}
    (h : Serves v x told) {f : α × Vm → β × Vm} (hf : ∀ y, (f y).2 = y.2)
    (htold : ∀ y, told' (f y).1 = told y.1) : Serves v (f <$> x) told' where
  keeps := by rw [val_map, hf]; exact h.keeps
  course := by rw [val_map, hf]; exact h.course
  notes := .bind h.notes (only_pure _)
  faulted := by rw [val_map, hf, strays_map, htold, h.faulted]

/-! ## Faults -/

/-- The guest that the session is left with is faulted if it was, or if it is told. -/
def Tells (v : Vm) (x : Traced (Reply × Vm)) : Prop :=
  x.val.2.guest.faulted = (v.guest.faulted || (x.strays v.id || x.val.1.isStray))

theorem tells_of_same {x : Traced (Reply × Vm)} (hguest : x.val.2.guest.faulted = v.guest.faulted)
    (hsilent : x.strays v.id = false) (hreply : x.val.1.isStray = false) : Tells v x := by
  rw [Tells, hguest, hsilent, hreply, Bool.or_false, Bool.or_false]

/-- A reply that tells of nothing that the notes do not tell of. -/
theorem tells_replying {g : α → Reply} {f : Vm → Traced (Except MonitorError α × Vm)}
    (hreports : (f v).Reports v.id v.guest (f v).val.2.guest) (hg : ∀ a, (g a).isStray = false)
    (herror : ∀ e, (f v).val.1 = .error e → e.isStray = true → (f v).strays v.id = true) :
    Tells v (Work.replying g f v) := by
  have hreply : (Reply.ofExcept g (f v).val.1).isStray = true → (f v).strays v.id = true := by
    cases h : (f v).val.1 with
    | ok a => simp [Reply.ofExcept, hg]
    | error e => exact herror e h
  have hstrays : (Work.replying g f v).strays v.id = (f v).strays v.id := by
    simp [Work.replying]
  show (f v).val.2.guest.faulted =
    (v.guest.faulted || (_ || (Reply.ofExcept g (f v).val.1).isStray))
  rw [hstrays, Bool.or_eq_left_iff_imp.2 hreply]
  exact hreports

theorem tells_trying {f : Vm → Except MonitorError Vm}
    (hguest : (Work.trying f v).val.2.guest = v.guest)
    (herror : ∀ e, f v = .error e → e.isStray = false) : Tells v (Work.trying f v) := by
  refine tells_of_same (congrArg Guest.faulted hguest) rfl ?_
  unfold Work.trying
  cases h : f v with
  | ok v' => rfl
  | error e => exact herror e h

theorem tells_inspecting {g : α → Reply} {f : Vm → Except MonitorError α}
    (hg : ∀ a, (g a).isStray = false) (herror : ∀ e, f v = .error e → e.isStray = false) :
    Tells v (Work.inspecting g f v) := by
  refine tells_of_same rfl rfl ?_
  show (Reply.ofExcept g (f v)).isStray = false
  cases h : f v with
  | ok a => exact hg a
  | error e => exact herror e h

theorem tells_timerWork {g : α → Reply} {f : IntervalTimer → Except MonitorError α}
    (hg : ∀ a, (g a).isStray = false) (herror : ∀ t e, f t = .error e → e.isStray = false) :
    Tells v (timerWork clock id g f v) := by
  refine tells_replying ?_ hg fun e he hstray => ?_
  · refine (v.reports_syncTimer clock).bind ?_
    simp only [val_bind]
    split <;> exact reports_pure _ _
  · -- An error is the refusal of what is asked, which is not stray.
    have hnot : e.isStray = false := by
      simp only [val_bind, val_pure] at he
      split at he
      next t _ => exact herror t e he
      next =>
        cases he
        rfl
    rw [hnot] at hstray
    cases hstray

/-- A line that is raised is answered by what the notes tell. -/
theorem strays_raise (v : Vm) (line : UInt8) :
    (v.raise line).strays v.id = ((v.raise line).val.1.map strayed).getD false := by
  unfold Vm.raise
  split
  · rfl
  next c _ => simp [InterruptController.strays_raise]

theorem strays_deliver (v : Vm) : v.deliver.strays v.id = strayed v.deliver.val.1 := by
  unfold Vm.deliver
  split
  · rfl
  next c _ => simp [InterruptController.strays_deliver]

theorem reports_raiseOn (line : UInt8) :
    (raiseOn id line v).Reports v.id v.guest (raiseOn id line v).val.2.guest := by
  rw [session_raiseOn]
  exact (v.reports_raise line).bind (reports_pure _ _)

theorem tells_raiseOn (line : UInt8) : Tells v (Work.replying .irq (raiseOn id line) v) := by
  refine tells_replying (reports_raiseOn line) (fun _ => rfl) fun e he hstray => ?_
  have hstrays : (raiseOn id line v).strays v.id = (v.raise line).strays v.id := by
    simp [raiseOn]
  rw [hstrays, strays_raise]
  simp only [raiseOn, val_bind, val_pure] at he
  rcases hraise : (v.raise line).val.1 with _ | _ | e'
  all_goals rw [hraise] at he; cases he
  · cases hstray
  · rwa [MonitorError.isStray_ofInject] at hstray

theorem tells_deliverOn {f : Vm → Traced (Except MonitorError (Option Delivery) × Vm)}
    {guest : Guest} (hf : f v = deliverOn id { v with guest })
    (hguest : guest.faulted = v.guest.faulted) : Tells v (Work.replying .delivery f v) := by
  let offered : Vm := { v with guest }
  have hstrays : (deliverOn id offered).strays v.id = strayed offered.deliver.val.1 := by
    simp [deliverOn, ← strays_deliver, offered]
  have hreports : (deliverOn id offered).Reports v.id guest (deliverOn id offered).val.2.guest :=
    offered.reports_deliver.bind (reports_pure _ _)
  refine tells_replying ?_ (fun _ => rfl) fun e he hstray => ?_
  · rw [hf, Reports, ← hguest]
    exact hreports
  · rw [hf] at he ⊢
    rw [hstrays]
    simp only [deliverOn, val_bind, val_pure] at he
    rcases hdeliver : offered.deliver.val.1 with e' | d
    all_goals rw [hdeliver] at he; cases he
    rwa [MonitorError.isStray_ofInject] at hstray

theorem tells_guestIret : Tells v (Work.replying .delivery (fun v =>
    match v.guest.iret with
    | (.error e, guest) => pure (.error (.guestMemory e), { v with guest })
    | (.ok (), guest) => deliverOn id { v with guest }) v) := by
  have hfaulted := v.guest.faulted_iret
  rcases hiret : v.guest.iret with ⟨e | _, guest⟩
  · rw [hiret] at hfaulted
    simp only [Work.replying, hiret]
    exact hfaulted
  · rw [hiret] at hfaulted
    exact tells_deliverOn (by rw [hiret]) (hfaulted.trans (Bool.or_false _))

theorem tells_interrupt (vector : UInt8) : Tells v (Work.replying (fun _ => .done) (fun v => do
    let (r, guest) ← v.guest.inject vector
    return (match r with
      | .ok () => .ok ()
      | .error e => .error (.ofInject id e), { v with guest })) v) := by
  have hfaulted := v.guest.faulted_interrupt vector
  have hsilent : (v.guest.inject vector).strays v.id = false :=
    (v.guest.notes_inject vector).not_strays
  simp only [Tells, Work.replying, val_bind, val_pure, strays_bind, strays_pure, hsilent,
    Guest.val_inject, Bool.or_false, Bool.false_or, hfaulted]
  rcases (v.guest.interrupt vector).1 with e | _
  · exact congrArg _ (MonitorError.isStray_ofInject id e).symm
  · rfl

theorem isStray_of_add {t : HandlerTable} {range : PortRange} {device : DeviceId} {e : MonitorError}
    (h : t.add range device = .error e) : e.isStray = false := by
  unfold HandlerTable.add at h
  simp only at h
  split at h
  · cases h; rfl
  · split at h
    · cases h; rfl
    · cases h

theorem isStray_of_map {f : α → β} {r : Except MonitorError α} {e : MonitorError}
    (hr : ∀ e, r = .error e → e.isStray = false) (h : r.map f = .error e) : e.isStray = false := by
  cases r with
  | ok a => cases h
  | error e' =>
    cases h
    exact hr e rfl

/-- **Faults are told** by the notes of the work or by the reply. -/
theorem tells_work (h : op.work? clock ioTrace = some (id, work)) (hid : v.id = id) :
    Tells v (work v) := by
  have hguest : op.edits = true → (work v).val.2.guest = v.guest :=
    fun hedits => (edited_work h hedits).guest
  cases op <;> cases h
  case addKillHandler | bindTask | disableInterrupts | setResumable =>
    exact tells_of_same rfl rfl rfl
  case addIoHandler range device =>
    refine tells_trying (hguest rfl) fun e he => ?_
    split at he
    · exact isStray_of_map (fun e => isStray_of_add) he
    · cases he; rfl
  case addService s =>
    refine tells_trying (hguest rfl) fun e he => isStray_of_map (fun e he => ?_) he
    unfold ServiceTable.add at he
    split at he <;> cases he
    rfl
  case watchTimer n watcher =>
    refine tells_trying (hguest rfl) fun e he => ?_
    split at he
    · cases he; rfl
    · split at he <;> cases he
      rfl
  case setDmaProgram n p =>
    refine tells_trying (hguest rfl) fun e he => ?_
    split at he
    · cases he; rfl
    · split at he <;> cases he
      rfl
  case controller =>
    refine tells_inspecting (fun _ => rfl) fun e he => ?_
    split at he <;> cases he
    rfl
  case dmaProgram n =>
    refine tells_inspecting (fun _ => rfl) fun e he => ?_
    split at he
    · cases he; rfl
    · split at he <;> cases he
      rfl
  case ioIn port operand =>
    have hread := v.reports_readBytes clock port operand.width
    have htold : ∀ bytes handled, (tell (.portRead id port bytes handled)).strays v.id = false :=
      fun _ _ => (only_remark rfl).not_strays
    cases ioTrace with
    | true =>
      exact tells_replying (hread.bind (.bind (reports_of_silent (htold _ _) _) (reports_pure _ _)))
        (fun _ => rfl) fun _ he => by cases he
    | false =>
      exact tells_replying (hread.bind (reports_pure _ _)) (fun _ => rfl) fun _ he => by cases he
  case ioOut port operand =>
    have hwrite := v.reports_writeBytes clock port operand.bytes
    have htold : ∀ handled, (tell (.portWrite id port operand.bytes handled)).strays v.id = false :=
      fun _ => (only_remark rfl).not_strays
    cases ioTrace with
    | true =>
      exact tells_replying (hwrite.bind (.bind (reports_of_silent (htold _) _) (reports_pure _ _)))
        (fun _ => rfl) fun _ he => by cases he
    | false =>
      exact tells_replying (hwrite.bind (reports_pure _ _)) (fun _ => rfl) fun _ he => by cases he
  case dispatchService number =>
    subst hid
    have hdispatch : (v.services.dispatch v.id number v.guest).Reports v.id v.guest _ :=
      v.services.reports_dispatch number v.guest
    exact tells_replying (hdispatch.bind (reports_pure _ _)) (fun _ => rfl) fun _ he => by cases he
  case raiseIrq line => exact tells_raiseOn line
  case interrupt vector => exact tells_interrupt vector
  case enableInterrupts => exact tells_deliverOn rfl rfl
  case guestIret => exact tells_guestIret
  case withGuest actions =>
    have hsilent : (v.guest.run actions).strays v.id = false :=
      (v.guest.notes_run actions).not_strays
    simp only [Tells, Work.replying, val_bind, val_pure, strays_bind, strays_pure, hsilent,
      Bool.or_false, Bool.false_or]
    exact v.guest.faulted_run actions
  case timerChannel n =>
    refine tells_timerWork (fun _ => rfl) fun t e he => ?_
    split at he <;> cases he
    rfl
  case timerChannels => exact tells_timerWork (fun _ => rfl) fun _ _ he => by cases he

/-! ## Routes and teardowns -/

/-- The operation that adds a step to the teardown. -/
def Op.adds : Op → Bool
  | .addKillHandler _ _ => true
  | _ => false

theorem Edits.course {v' : Vm} (h : Edits v op v') : v.Course [] v' := by
  have hkeeps := h.edited.keeps
  cases h with
  | refused | served | watched | programmed => exact hkeeps.course rfl
  | routed present added =>
    refine ⟨rfl, List.prefix_refl _, (List.append_nil _).symm, fun hv => ?_, [.add _ _],
      (HandlerTable.step_of_add added).symm⟩
    refine hv.mono (List.prefix_refl _) fun e he => ?_
    rcases HandlerTable.mem_add added he with hnew | hold
    · right
      rw [hnew]
      exact present
    · exact .inl hold

theorem course_work (h : op.work? clock ioTrace = some (id, work)) (hadds : op.adds = false)
    (v : Vm) : v.Course [] (work v).val.2 := by
  refine if hedits : op.edits = true then (edits_work h hedits).course else ?_
  refine (keeps_work h v).course ?_
  cases op <;> cases h
  case addIoHandler | addService | watchTimer | setDmaProgram => exact absurd rfl hedits
  case addKillHandler => cases hadds
  case bindTask | disableInterrupts | setResumable | controller | dmaProgram | interrupt |
      withGuest | dispatchService =>
    rfl
  case ioIn port operand =>
    have hread := v.fittings_readBytes clock port operand.width
    cases ioTrace <;> exact hread
  case ioOut port operand =>
    have hwrite := v.fittings_writeBytes clock port operand.bytes
    cases ioTrace <;> exact hwrite
  case raiseIrq line =>
    show (raiseOn id line v).val.2.fittings = v.fittings
    rw [session_raiseOn]
    exact v.fittings_raise line
  case enableInterrupts => exact Vm.fittings_deliver _
  case guestIret =>
    simp only [Work.replying, val_bind, val_pure]
    split
    · rfl
    next guest _ => exact Vm.fittings_deliver { v with guest }
  case timerChannel | timerChannels =>
    rw [session_timerWork]
    exact v.fittings_syncTimer clock

/-- **Work** leaves the arena and the steps of the teardown as they were, the routes sound, and no
fault untold. -/
theorem Op.serves_work (h : op.work? clock ioTrace = some (id, work)) (hadds : op.adds = false)
    (hid : v.id = id) : Serves v (work v) Reply.isStray where
  keeps := keeps_work h v
  course := course_work h hadds v
  notes := notes_work h hid
  faulted := tells_work h hid

end Monitor
end RealModeMonitor
