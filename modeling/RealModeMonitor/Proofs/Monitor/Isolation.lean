import RealModeMonitor.Proofs.Monitor.Run

/-!
# Sessions are isolated

What reaches a session of a monitor is its **view**: the session itself, the clock, and whether
port accesses are traced. The slots of the other sessions, the counts of the modules and the shell
have no part in it. Two monitors that a session sees alike answer it alike.

The argument has two halves. An operation on one session leaves the view of every other as it was
(`Spares`), and what it does to its own session follows from that session's view (`Alike`);
`Confined` says both and is closed under composition. A tick is on no session, and does to each
what follows from that session's view (`timerTick_eq`): the deaths at its end reach nobody else.

**Isolation** (`sessions_isolated`). Take the operations on one session out of a run. No other
session can tell.
-/

namespace RealModeMonitor.Monitor

open Traced

variable {α β : Type} {config : Config} {m m' : Monitor} {a b c id : VmId} {v : Vm} {op : Op}

/-! ## Views -/

/-- What a session sees of a monitor. -/
structure View where
  session : Option Vm
  clock : Clock
  ioTrace : Bool

def view (b : VmId) (m : Monitor) : View := ⟨m.registry.get? b, m.clock, m.ioTrace⟩

/-- No call of `x`, which starts at `m`, is for session `b`, and `b` sees no change. -/
structure Spares (b : VmId) (m : Monitor) (x : Traced (α × Monitor)) : Prop where
  calls : x.calls b = []
  after : view b x.val.2 = view b m

/-- Session `b` is called alike by `x` and `x'`, and sees the same after them. -/
structure Alike (b : VmId) (x : Traced (α × Monitor)) (x' : Traced (β × Monitor)) : Prop where
  calls : x.calls b = x'.calls b
  after : view b x.val.2 = view b x'.val.2

/-- Session `b` is answered the same as well. -/
structure Same (b : VmId) (x x' : Traced (α × Monitor)) : Prop extends Alike b x x' where
  reply : x.val.1 = x'.val.1

theorem spares_pure (b : VmId) (m : Monitor) (r : α) : Spares b m (pure (r, m)) := ⟨rfl, rfl⟩

theorem Spares.bind {x : Traced (α × Monitor)} {f : α × Monitor → Traced (β × Monitor)}
    (hx : Spares b m x) (hf : Spares b x.val.2 (f x.val)) : Spares b m (x >>= f) :=
  ⟨by rw [calls_bind, hx.calls, hf.calls]; rfl, hf.after.trans hx.after⟩

theorem Spares.map {x : Traced (α × Monitor)} (hx : Spares b m x) {f : α × Monitor → β × Monitor}
    (hf : ∀ y, (f y).2 = y.2) : Spares b m (f <$> x) :=
  ⟨by rw [calls_map, hx.calls], by rw [val_map, hf, hx.after]⟩

theorem Spares.alike {x : Traced (α × Monitor)} {x' : Traced (β × Monitor)} (hx : Spares b m x)
    (hx' : Spares b m' x') (h : view b m = view b m') : Alike b x x' :=
  ⟨by rw [hx.calls, hx'.calls], by rw [hx.after, hx'.after, h]⟩

theorem Same.bind {x x' : Traced (α × Monitor)} {f f' : α × Monitor → Traced (β × Monitor)}
    (hx : Same b x x') (hf : Same b (f x.val) (f' x'.val)) : Same b (x >>= f) (x' >>= f') where
  calls := by rw [calls_bind, calls_bind, hx.calls, hf.calls]
  after := hf.after
  reply := hf.reply

theorem Same.map {x x' : Traced (α × Monitor)} (hx : Same b x x') {f : α × Monitor → β × Monitor}
    (hf : ∀ y, (f y).2 = y.2) (hreply : ∀ y y' : α × Monitor, y.1 = y'.1 → (f y).1 = (f y').1) :
    Same b (f <$> x) (f <$> x') where
  calls := by rw [calls_map, calls_map, hx.calls]
  after := by rw [val_map, val_map, hf, hf, hx.after]
  reply := hreply _ _ hx.reply

/-! ## Operations on one session -/

/-- An operation on session `c` that no other session can tell of, and that does and answers what
follows from the view of `c`. -/
structure Confined (config : Config) (c : VmId) (f : Monitor → Traced (α × Monitor)) : Prop where
  sound : ∀ {m}, Sound config m → Sound config (f m).val.2
  spares : ∀ {m b}, Sound config m → b ≠ c → Spares b m (f m)
  alike : ∀ {m m'}, Sound config m → Sound config m' → view c m = view c m' →
    Same c (f m) (f m')

/-- What is done is put as a function of the view, for its own session and for the others. -/
theorem Confined.of_view {f : Monitor → Traced (α × Monitor)} (reply : View → α)
    (calls : View → List Event) (session : View → Option Vm)
    (hsound : ∀ m, Sound config m → Sound config (f m).val.2)
    (hreply : ∀ m, Sound config m → (f m).val.1 = reply (view c m))
    (hcalls : ∀ m b, Sound config m → (f m).calls b = if b = c then calls (view c m) else [])
    (hview : ∀ m b, Sound config m → view b (f m).val.2 =
      { view b m with session := if b = c then session (view c m) else m.registry.get? b }) :
    Confined config c f where
  sound := hsound _
  spares hm hb := ⟨by rw [hcalls _ _ hm, if_neg hb], by rw [hview _ _ hm, if_neg hb]; rfl⟩
  alike {m m'} hm hm' h :=
    { calls := by rw [hcalls m c hm, hcalls m' c hm', h]
      after := by rw [hview m c hm, hview m' c hm', if_pos rfl, if_pos rfl, h]
      reply := by rw [hreply m hm, hreply m' hm', h] }

theorem Confined.map {f : Monitor → Traced (α × Monitor)} (hf : Confined config c f)
    {g : α × Monitor → β × Monitor} (hg : ∀ y, (g y).2 = y.2)
    (hreply : ∀ y y' : α × Monitor, y.1 = y'.1 → (g y).1 = (g y').1) :
    Confined config c fun m => g <$> f m where
  sound hm := by rw [val_map, hg]; exact hf.sound hm
  spares hm hb := (hf.spares hm hb).map hg
  alike hm hm' h := (hf.alike hm hm' h).map hg hreply

theorem Confined.bind {f : Monitor → Traced (α × Monitor)} {g : α → Monitor → Traced (β × Monitor)}
    (hf : Confined config c f) (hg : ∀ r, Confined config c (g r)) :
    Confined config c fun m => f m >>= fun y => g y.1 y.2 where
  sound hm := (hg _).sound (hf.sound hm)
  spares hm hb := (hf.spares hm hb).bind ((hg _).spares (hf.sound hm) hb)
  alike {m m'} hm hm' h := by
    have hfirst := hf.alike hm hm' h
    refine hfirst.bind ?_
    rw [hfirst.reply]
    exact (hg _).alike (hf.sound hm) (hf.sound hm') hfirst.after

theorem confined_pure (config : Config) (c : VmId) (r : α) :
    Confined config c fun m => (pure (r, m) : Traced (α × Monitor)) where
  sound hm := hm
  spares _ _ := spares_pure _ _ r
  alike _ _ h := { calls := rfl, after := h, reply := rfl }

/-! ## What each does -/

/-- The session's last calls, if it dies for a fault. -/
def farewell (b : VmId) (v : Vm) : List Event := if v.guest.faulted then lastCalls b v else []

theorem farewell_other (h : v.id ≠ b) : farewell b v = [] := by
  unfold farewell
  rw [lastCalls_other h, ite_self]

theorem view_bury (m : Monitor) (id b : VmId) :
    view b (m.bury id).val.2 =
      { view b m with session := if b = id then none else m.registry.get? b } := by
  have hhost : (m.bury id).val.2.clock = m.clock ∧ (m.bury id).val.2.ioTrace = m.ioTrace := by
    unfold bury
    split <;> exact ⟨rfl, rfl⟩
  have hget : (m.registry.remove id).get? b = if b = id then none else m.registry.get? b := by
    cases h : m.registry.get? id with
    | none =>
      simp only [Registry.remove, h]
      split
      next hb => rw [hb, h]
      next => rfl
    | some v => exact Registry.get?_remove h b
  rw [view, registry_bury, hhost.1, hhost.2, hget]
  rfl

theorem val_perform_kill (m : Monitor) (id : VmId) :
    (m.perform (.kill id)).val = (.done, (m.bury id).val.2) := by
  rw [← val_kill]
  rfl

/-- A session that is killed is gone, and the others are as they were. -/
theorem get?_kill (m : Monitor) (id b : VmId) :
    (m.perform (.kill id)).val.2.registry.get? b =
      if b = id then none else m.registry.get? b := by
  rw [val_perform_kill]
  exact congrArg View.session (m.view_bury id b)

/-- The calls at the death of a session that may be dead. -/
def callsAtDeath (b : VmId) : Option Vm → List Event
  | none => []
  | some v => lastCalls b v

/-- What is heard at the death of a session that may be dead. -/
def heardAtDeath (b : VmId) : Option Vm → List Note
  | none => []
  | some v => lastHeard b v

theorem callsAtDeath_eq (b : VmId) (o : Option Vm) :
    callsAtDeath b o = (heardAtDeath b o).filterMap Note.event? := by
  cases o with
  | none => rfl
  | some v => exact lastCalls_eq b v

theorem heard_bury_eq (hm : m.registry.WellNamed) (id b : VmId) :
    (m.bury id).heard b = if b = id then heardAtDeath b (m.registry.get? b) else [] := by
  cases h : m.registry.get? id with
  | none =>
    rw [bury_dead h, heard_pure]
    split
    next hb => rw [hb, h]; rfl
    next => rfl
  | some v =>
    rw [heard_bury h]
    split
    next hb => rw [hb, h]; rfl
    next hb =>
      refine lastHeard_other ?_
      rw [hm.id_of_get? h]
      exact fun hid => hb hid.symm

theorem calls_bury_eq (hm : m.registry.WellNamed) (id b : VmId) :
    (m.bury id).calls b = if b = id then callsAtDeath b (m.registry.get? b) else [] := by
  rw [calls_eq_heard, heard_bury_eq hm, callsAtDeath_eq]
  split <;> rfl

theorem view_withVm (m : Monitor) (id b : VmId) (f : Vm → Traced (Except MonitorError α × Vm)) :
    view b (m.withVm id f).val.2 =
      { view b m with
        session :=
          if b = id then (m.registry.get? id).bind fun v => survivor (f v).val.2
          else m.registry.get? b } := by
  have hhost : (m.withVm id f).val.2.clock = m.clock ∧
      (m.withVm id f).val.2.ioTrace = m.ioTrace := by
    unfold withVm
    split
    · exact ⟨rfl, rfl⟩
    next v _ =>
      simp only [val_bind]
      split
      · have h := view_bury { m with registry := m.registry.set id (f v).val.2 } id b
        exact ⟨congrArg View.clock h, congrArg View.ioTrace h⟩
      · exact ⟨rfl, rfl⟩
  rw [view, get?_withVm, hhost.1, hhost.2]
  rfl

/-- What is heard of the sessions at the death of `v`, if it is at fault. -/
def lastWords (b : VmId) (v : Vm) : List Note := if v.guest.faulted then lastHeard b v else []

theorem lastWords_other (h : v.id ≠ b) : lastWords b v = [] := by
  unfold lastWords
  rw [lastHeard_other h, ite_self]

theorem farewell_eq (b : VmId) (v : Vm) : farewell b v = (lastWords b v).filterMap Note.event? := by
  unfold farewell lastWords
  split
  · exact lastCalls_eq b v
  · rfl

theorem heard_withVm {f : Vm → Traced (Except MonitorError α × Vm)}
    (h : m.registry.get? id = some v) (b : VmId) :
    (m.withVm id f).heard b = (f v).heard b ++ lastWords b (f v).val.2 := by
  have hlive : (m.registry.set id (f v).val.2).get? id = some (f v).val.2 := by
    rw [Registry.get?_set h, if_pos rfl]
  have hfault : (tell (.guestFaulted id)).heard b = [] := heard_tell rfl
  simp only [withVm, h, heard_bind, lastWords]
  split
  · have hbury := @heard_bury { m with registry := m.registry.set id (f v).val.2 } id _ hlive b
    simp [killFaulted, hbury, hfault]
  · simp

theorem calls_withVm {f : Vm → Traced (Except MonitorError α × Vm)}
    (h : m.registry.get? id = some v) (b : VmId) :
    (m.withVm id f).calls b = (f v).calls b ++ farewell b (f v).val.2 := by
  rw [calls_eq_heard, heard_withVm h, List.filterMap_append, ← calls_eq_heard, farewell_eq]

theorem reply_withVm {f : Vm → Traced (Except MonitorError α × Vm)}
    (h : m.registry.get? id = some v) : (m.withVm id f).val.1 = (f v).val.1 := by
  simp only [withVm, h, val_bind]
  split <;> rfl

theorem withVm_dead (h : m.registry.get? id = none)
    (f : Vm → Traced (Except MonitorError α × Vm)) :
    m.withVm id f = pure (.error (.noSuchVm id), m) := by
  rw [withVm, h]

theorem spares_withVm {f : Vm → Traced (Except MonitorError α × Vm)} (hm : Sound config m)
    (hkeeps : ∀ v : Vm, v.Keeps (f v).val.2)
    (hnotes : ∀ v, v.id = c → (f v).Only (Note.AtWork v.id)) (hb : b ≠ c) :
    Spares b m (m.withVm c f) := by
  refine ⟨?_, by rw [view_withVm, if_neg hb]; rfl⟩
  cases h : m.registry.get? c with
  | none => rw [withVm_dead h, calls_pure]
  | some v =>
    have hid := hm.named.id_of_get? h
    have hother : v.id ≠ b := fun heq => hb (heq.symm.trans hid)
    rw [calls_withVm h, (hnotes v hid).ofVm.calls_other hother, farewell_other, List.append_nil]
    rwa [(hkeeps v).id]

theorem same_withVm (h : view c m = view c m') (f : Vm → Traced (Except MonitorError α × Vm)) :
    Same c (m.withVm c f) (m'.withVm c f) := by
  have hsession : m.registry.get? c = m'.registry.get? c := congrArg View.session h
  have hafter : view c (m.withVm c f).val.2 = view c (m'.withVm c f).val.2 := by
    rw [view_withVm, view_withVm, h, hsession]
  cases hlive : m.registry.get? c with
  | none =>
    rw [withVm_dead hlive, withVm_dead (hsession ▸ hlive)]
    exact { calls := rfl, after := h, reply := rfl }
  | some v =>
    refine { calls := ?_, after := hafter, reply := ?_ }
    · rw [calls_withVm hlive, calls_withVm (hsession ▸ hlive)]
    · rw [reply_withVm hlive, reply_withVm (hsession ▸ hlive)]

/-- Replies are made of results and nothing else. -/
theorem reply_ofResult (f : α → Reply) (y y' : Except MonitorError α × Monitor) (h : y.1 = y'.1) :
    (Reply.ofResult f y).1 = (Reply.ofResult f y').1 := by
  obtain ⟨r, m⟩ := y
  obtain ⟨r', m'⟩ := y'
  obtain rfl : r = r' := h
  cases r <;> rfl

/-- Work is confined to its session. -/
theorem confined_work {clock : Clock} {ioTrace : Bool} {work : Work}
    (h : op.work? clock ioTrace = some (c, work)) : Confined config c fun m => m.perform op := by
  have hwork : ∀ m : Monitor, ∃ work, op.work? m.clock m.ioTrace = some (c, work) := by
    intro m
    cases op <;> cases h <;> exact ⟨_, rfl⟩
  refine ⟨fun {m} hm => ?_, fun {m b} hm hb => ?_, fun {m m'} hm hm' hview => ?_⟩
  · obtain ⟨work, hwork⟩ := hwork m
    exact hm.steps (evolves_work hm hwork).steps
  · obtain ⟨work, hwork⟩ := hwork m
    rw [perform_work hwork, onSession_eq_withVm]
    refine (spares_withVm hm (keeps_work hwork) (fun v hv => ?_) hb).map (snd_ofResult _)
    exact .bind (notes_work hwork hv) (only_pure _)
  · obtain ⟨work, hwork⟩ := hwork m
    have hclock : m.clock = m'.clock := congrArg View.clock hview
    have htrace : m.ioTrace = m'.ioTrace := congrArg View.ioTrace hview
    have hwork' : op.work? m'.clock m'.ioTrace = some (c, work) := by rwa [← hclock, ← htrace]
    rw [perform_work hwork, perform_work hwork', onSession_eq_withVm, onSession_eq_withVm]
    exact (same_withVm hview _).map (snd_ofResult _) (reply_ofResult _)

/-! ## Sessions that are put back -/

/-- The session becomes `change v`, and apart from modules nothing else changes. -/
theorem Confined.of_change {f : Monitor → Traced (α × Monitor)} (reply : Option Vm → α)
    (change : Vm → Vm) (hsound : ∀ m, Sound config m → Sound config (f m).val.2)
    (hdead : ∀ m : Monitor, m.registry.get? c = none → f m = pure (reply none, m))
    (hlive : ∀ m v, Sound config m → m.registry.get? c = some v →
      (∀ b, (f m).calls b = []) ∧ ∃ modules, (f m).val =
        (reply (some v), { m with modules, registry := m.registry.set c (change v) })) :
    Confined config c f := by
  refine .of_view (fun w => reply w.session) (fun _ => []) (fun w => w.session.map change) hsound
    (fun m hm => ?_) (fun m b hm => ?_) (fun m b hm => ?_)
  all_goals
    cases h : m.registry.get? c with
    | none =>
      rw [hdead m h]
      simp +contextual [view, h]
    | some v =>
      obtain ⟨hcalls, modules, hval⟩ := hlive m v hm h
      simp [view, h, hcalls, hval, Registry.get?_set h]

theorem attachDevice_live (hm : Sound config m) (h : m.registry.get? c = some v) (d : Device) :
    (∀ b, (m.attachDevice c d).calls b = []) ∧ ∃ modules, (m.attachDevice c d).val =
      (.ok (v.attach d).1, { m with modules, registry := m.registry.set c (v.attach d).2 }) := by
  have hopen := openForDevice_ok hm.infos d.kind
  have hcalls : ∀ b, (openForDevice m.modules d.kind).calls b = [] :=
    fun b => (notes_openForDevice m.modules d.kind).no_calls
  rcases hval : (openForDevice m.modules d.kind).val with ⟨r, modules⟩
  obtain rfl : r = .ok () := by rw [← hopen, hval]
  simp only [attachDevice, h, calls_bind, val_bind, hval, hcalls]
  exact ⟨fun b => rfl, modules, rfl⟩

theorem confined_attachDevice (config : Config) (c : VmId) (d : Device) :
    Confined config c fun m => m.attachDevice c d := by
  refine .of_change (fun s => s.elim (.error (.noSuchVm c)) fun v => .ok (v.attach d).1)
    (fun v => (v.attach d).2) (fun m hm => hm.steps (m.evolves_attachDevice c d).steps)
    (fun m h => ?_) (fun m v hm h => attachDevice_live hm h d)
  rw [attachDevice, h]
  rfl

theorem installDevice_live (hm : Sound config m) (h : m.registry.get? c = some v) (d : Device) :
    (∀ b, (m.installDevice c d).calls b = []) ∧ ∃ modules, (m.installDevice c d).val =
      ((v.install d).1, { m with modules, registry := m.registry.set c (v.install d).2 }) := by
  have hopen := openForDevice_ok hm.infos d.kind
  have hcalls : ∀ b, (openForDevice m.modules d.kind).calls b = [] :=
    fun b => (notes_openForDevice m.modules d.kind).no_calls
  have hclose : ∀ t b, (closeForDevice t d.kind).calls b = [] :=
    fun t b => (notes_closeForDevice t d.kind).no_calls
  rcases hval : (openForDevice m.modules d.kind).val with ⟨r, modules⟩
  obtain rfl : r = .ok () := by rw [← hopen, hval]
  simp only [installDevice, h, calls_bind, val_bind, hval, hcalls, List.nil_append]
  cases (v.install d).1 with
  | ok device => exact ⟨fun b => rfl, modules, rfl⟩
  | error e =>
    refine ⟨fun b => ?_, _, rfl⟩
    rw [calls_bind, hclose]
    rfl

theorem confined_installDevice (config : Config) (c : VmId) (d : Device) :
    Confined config c fun m => m.installDevice c d := by
  refine .of_change (fun s => s.elim (.error (.noSuchVm c)) fun v => (v.install d).1)
    (fun v => (v.install d).2) (fun m hm => hm.steps (m.evolves_installDevice c d).steps)
    (fun m h => ?_) (fun m v hm h => installDevice_live hm h d)
  rw [installDevice, h]
  rfl

/-- The memory is looked for first, and its size is kept in the CMOS RAM. -/
theorem confined_installCmosOf (config : Config) (c : VmId) (size : Except MonitorError Nat) :
    Confined config c fun m =>
      match size with
      | .error e => pure (.error e, m)
      | .ok size => m.installDevice c (.cmos (.initial size)) := by
  cases size with
  | error e => exact confined_pure config c _
  | ok size => exact confined_installDevice config c _

theorem confined_installCmos (config : Config) (c : VmId) :
    Confined config c fun m => m.installCmos c := by
  have hlook : Confined config c fun m => m.inspectVm c fun v => .ok v.guest.memory.size :=
    { sound := fun hm => hm.steps (evolves_inspectVm _ c _).steps
      spares := fun hm hb => spares_withVm hm .refl (fun _ _ => only_pure _) hb
      alike := fun _ _ h => same_withVm h _ }
  exact hlook.bind (confined_installCmosOf config c)

/-- What is left is done only after a success. -/
theorem confined_inOrderAfter
    {fs : List (Monitor → Traced (Except MonitorError DeviceId × Monitor))}
    (hfs : Confined config c fun m => m.inOrder fs) (r : Except MonitorError DeviceId) :
    Confined config c fun m =>
      match r with
      | .error e => pure (.error e, m)
      | .ok _ => m.inOrder fs := by
  cases r with
  | error e => exact confined_pure config c _
  | ok device => exact hfs

theorem confined_inOrder (fs : List (Monitor → Traced (Except MonitorError DeviceId × Monitor)))
    (hfs : ∀ f ∈ fs, Confined config c f) : Confined config c fun m => m.inOrder fs := by
  induction fs with
  | nil => exact confined_pure config c _
  | cons f fs ih =>
    exact (hfs f List.mem_cons_self).bind
      (confined_inOrderAfter (ih fun f' hf' => hfs f' (List.mem_cons_of_mem f hf')))

theorem confined_installStandardDevices (config : Config) (c : VmId) :
    Confined config c fun m => m.installStandardDevices c := by
  refine confined_inOrder _ ?_
  simp only [List.forall_mem_cons, List.not_mem_nil, false_imp_iff, implies_true, and_true]
  exact ⟨confined_installDevice config c _, confined_installDevice config c _,
    confined_installDevice config c _, confined_installCmos config c⟩

theorem confined_kill (config : Config) (c : VmId) :
    Confined config c fun m => m.perform (.kill c) := by
  have hcalls : ∀ (m : Monitor) b, (m.perform (.kill c)).calls b = (m.bury c).calls b := by
    intro m b
    simp only [perform, kill, calls_bind, calls_pure, List.append_nil]
    split <;> simp
  refine .of_view (fun _ => .done) (fun w => callsAtDeath c w.session) (fun _ => none) ?_ ?_ ?_ ?_
  · intro m hm
    rw [val_perform_kill, ← val_kill]
    exact hm.steps (m.steps_kill c)
  · intro m _
    rw [val_perform_kill]
  · intro m b hm
    rw [hcalls, calls_bury_eq hm.named]
    split
    next hb => rw [hb]; rfl
    next => rfl
  · intro m b _
    rw [val_perform_kill, view_bury]

/-! ## Every operation on one session -/

/-- Operations that are for the host alone: they start sessions, bind them to tasks and host lines,
open and close modules, and run commands. -/
def Op.isForHost : Op → Bool
  | .create | .bindTask _ _ | .grabIrq _ _ | .releaseIrq _ | .hardwareIrq _ | .openModule _ _
  | .closeModule _ | .expungeModule _ | .runShell _ => true
  | _ => false

theorem confined_query (config : Config) (c : VmId) (f : Option Vm → Reply) :
    Confined config c fun m => (pure (f (m.registry.get? c), m) : Traced (Reply × Monitor)) where
  sound hm := hm
  spares _ _ := spares_pure _ _ _
  alike _ _ h := { calls := rfl, after := h, reply := congrArg (fun w => f w.session) h }

theorem confined_other {clock : Clock} {ioTrace : Bool} (hop : op.subject? = some c)
    (hhost : op.isForHost = false) (hwork : op.work? clock ioTrace = none) :
    Confined config c fun m => m.perform op := by
  cases op <;> cases hwork <;> cases hhost <;> cases hop
  case kill => exact confined_kill config c
  case isAlive => exact confined_query config c fun s => .flag s.isSome
  case ioHandler port => exact confined_query config c fun s => .entry (s.bind (·.io.get? port))
  case serviceName number =>
    exact confined_query config c fun s => .name (s.bind (·.services.name? number))
  case attach d => exact (confined_attachDevice config c d).map (snd_ofResult _) (reply_ofResult _)
  case install | installPic | installPit | installDma =>
    exact (confined_installDevice config c _).map (snd_ofResult _) (reply_ofResult _)
  case installCmos => exact (confined_installCmos config c).map (snd_ofResult _) (reply_ofResult _)
  case installStandard =>
    exact (confined_installStandardDevices config c).map (snd_ofResult _) (reply_ofResult _)
  case removeIoHandler range =>
    refine .of_change (fun _ => .done) (fun v => { v with io := (v.io.remove range).2 })
      (fun m hm => hm.step (m.step_removeIoHandler c range)) (fun m h => ?_) (fun m v _ h => ?_)
    · simp only [perform, removeIoHandler, h]
    · simp only [perform, removeIoHandler, h]
      exact ⟨fun _ => rfl, _, rfl⟩
  case removeService number =>
    refine .of_change (fun _ => .done) (fun v => { v with services := v.services.remove number })
      (fun m hm => hm.step (m.step_removeService c number)) (fun m h => ?_) (fun m v _ h => ?_)
    · simp only [perform, removeService, h]
    · simp only [perform, removeService, h]
      exact ⟨fun _ => rfl, _, rfl⟩

/-- **Every operation on a session** is confined to it. -/
theorem confined_perform (hop : op.subject? = some c) (hhost : op.isForHost = false) :
    Confined config c fun m => m.perform op := by
  cases hwork : op.work? ⟨0, 0⟩ false with
  | some found =>
    obtain ⟨c', work⟩ := found
    obtain rfl : c' = c := Option.some.inj ((subject?_of_work hwork).symm.trans hop)
    exact confined_work hwork
  | none => exact confined_other hop hhost hwork

/-! ## Ticks -/

/-- The session after a tick. -/
def ticked (clock : Clock) : Option Vm → Traced (Option Vm)
  | none => pure none
  | some v => some <$> v.tick clock

theorem get?_tickSession (clock : Clock) (r : Registry) (id b : VmId) :
    (tickSession clock r id).val.get? b =
      if b = id then (ticked clock (r.get? b)).val else r.get? b := by
  unfold tickSession
  cases h : r.get? id with
  | none =>
    dsimp only [val_pure]
    split
    next hb => rw [hb, h]; rfl
    next => rfl
  | some v =>
    simp only [val_bind, val_pure, Registry.get?_set h]
    split
    next hb => rw [hb, h]; rfl
    next => rfl

theorem heard_tickSession {r : Registry} (hr : r.WellNamed) (clock : Clock) (id b : VmId) :
    (tickSession clock r id).heard b =
      if b = id then (ticked clock (r.get? b)).heard b else [] := by
  unfold tickSession
  cases h : r.get? id with
  | none =>
    rw [heard_pure]
    split
    next hb => rw [hb, h]; rfl
    next => rfl
  | some v =>
    simp only [heard_bind, heard_pure, List.append_nil]
    split
    next hb => rw [hb, h, ticked, heard_map]
    next hb =>
      refine (v.notes_tick clock).ofVm.heard_other ?_
      rw [hr.id_of_get? h]
      exact fun hid => hb hid.symm

theorem wellNamed_tickSession {r : Registry} (hr : r.WellNamed) (clock : Clock) (id : VmId) :
    (tickSession clock r id).val.WellNamed := by
  unfold tickSession
  cases h : r.get? id with
  | none => exact hr
  | some v => exact hr.set h (v.keeps_tick clock).id

/-- Each session ticks on its own. -/
theorem tickSessions_eq {r : Registry} (hr : r.WellNamed) (clock : Clock) {ids : List VmId}
    (hids : ids.Nodup) (b : VmId) :
    (ids.foldlM (tickSession clock) r).val.get? b =
        (if b ∈ ids then (ticked clock (r.get? b)).val else r.get? b) ∧
      (ids.foldlM (tickSession clock) r).heard b =
        if b ∈ ids then (ticked clock (r.get? b)).heard b else [] := by
  induction ids generalizing r with
  | nil => exact ⟨rfl, rfl⟩
  | cons id ids ih =>
    obtain ⟨hid, hids⟩ := List.nodup_cons.1 hids
    obtain ⟨hget, hheard⟩ := ih (wellNamed_tickSession hr clock id) hids
    rw [List.foldlM_cons, val_bind, heard_bind, hget, hheard, get?_tickSession,
      heard_tickSession hr]
    by_cases hb : b = id
    · subst hb
      simp [hid]
    · simp [hb]

/-- The live sessions are all that a tick is for. -/
theorem tickAll_eq {r : Registry} (hr : r.WellNamed) (clock : Clock) (b : VmId) :
    (r.ids.foldlM (tickSession clock) r).val.get? b = (ticked clock (r.get? b)).val ∧
      (r.ids.foldlM (tickSession clock) r).heard b = (ticked clock (r.get? b)).heard b := by
  have h := tickSessions_eq hr clock hr.nodup_ids b
  by_cases hb : b ∈ r.ids
  · simpa [hb] using h
  · have hdead : r.get? b = none := by simpa [hr.mem_ids_iff, Registry.isAlive] using hb
    simpa [hb, hdead, ticked] using h

theorem wellNamed_tickSessions {r : Registry} (hr : r.WellNamed) (clock : Clock) (ids : List VmId) :
    (ids.foldlM (tickSession clock) r).val.WellNamed := by
  induction ids generalizing r with
  | nil => exact hr
  | cons id ids ih => exact ih (wellNamed_tickSession hr clock id)

/-- Each session dies on its own. -/
theorem killAllFaulted_eq (hm : m.registry.WellNamed) (ids : List VmId) (b : VmId) :
    view b (ids.foldlM killFaulted m).val =
        { view b m with session := if b ∈ ids then none else m.registry.get? b } ∧
      (ids.foldlM killFaulted m).heard b =
        if b ∈ ids then heardAtDeath b (m.registry.get? b) else [] := by
  induction ids generalizing m with
  | nil => exact ⟨rfl, rfl⟩
  | cons id ids ih =>
    have hview : view b (m.killFaulted id).val =
        { view b m with session := if b = id then none else m.registry.get? b } := m.view_bury id b
    have hheard : (m.killFaulted id).heard b =
        if b = id then heardAtDeath b (m.registry.get? b) else [] := by
      have hfault : (tell (.guestFaulted id)).heard b = [] := heard_tell rfl
      rw [← heard_bury_eq hm]
      simp [killFaulted, hfault]
    have hnamed : (m.killFaulted id).val.registry.WellNamed := by
      rw [registry_killFaulted]
      exact hm.remove id
    obtain ⟨hview', hheard'⟩ := ih hnamed
    have hget : (m.killFaulted id).val.registry.get? b =
        if b = id then none else m.registry.get? b := congrArg View.session hview
    rw [List.foldlM_cons, val_bind, heard_bind, hview', hview, hheard, hheard', hget]
    by_cases hb : b = id
    · subst hb
      simp [heardAtDeath]
    · simp [hb]

theorem mem_faultedIds_iff {r : Registry} (hr : r.WellNamed) :
    b ∈ faultedIds r ↔ ∃ v, r.get? b = some v ∧ v.guest.faulted = true := by
  simp only [faultedIds, List.mem_map, List.mem_filter, hr.get?_eq_some_iff_mem]
  constructor
  · rintro ⟨v, ⟨hv, hfaulted⟩, hid⟩
    exact ⟨v, ⟨hv, hid⟩, hfaulted⟩
  · rintro ⟨v, ⟨hv, hid⟩, hfaulted⟩
    exact ⟨v, ⟨hv, hfaulted⟩, hid⟩

/-- **A tick** is to each session what its own view makes it. -/
theorem timerTick_eq (hm : Sound config m) (n : UInt32) (b : VmId) :
    let clock := m.clock.advance n
    let x := ticked clock (m.registry.get? b)
    view b (m.timerTick n).val = ⟨x.val.bind survivor, clock, m.ioTrace⟩ ∧
      (m.timerTick n).heard b = x.heard b ++ (x.val.map (lastWords b)).getD [] := by
  intro clock x
  have hnamed := hm.named
  obtain ⟨hget, hheard⟩ := tickAll_eq hm.named clock b
  have hnamed := wellNamed_tickSessions hm.named clock m.registry.ids
  have hdeaths := @killAllFaulted_eq
    { m with clock, registry := (m.registry.ids.foldlM (tickSession clock) m.registry).val }
    hnamed (faultedIds (m.registry.ids.foldlM (tickSession clock) m.registry).val) b
  simp only [mem_faultedIds_iff hnamed, hget] at hdeaths
  have hval : view b (m.timerTick n).val =
      ⟨if ∃ v, x.val = some v ∧ v.guest.faulted = true then none else x.val, clock, m.ioTrace⟩ :=
    hdeaths.1
  have htrace : (m.timerTick n).heard b = x.heard b ++
      if ∃ v, x.val = some v ∧ v.guest.faulted = true then heardAtDeath b x.val else [] := by
    rw [← hheard, ← hdeaths.2]
    exact heard_bind _ _
  rw [hval, htrace]
  cases x.val with
  | none => simp
  | some v =>
    by_cases hfaulted : v.guest.faulted <;> simp [hfaulted, survivor, lastWords, heardAtDeath]

theorem thins_tickSessions (k : Clock) (ids : List VmId) (r : Registry) :
    r.Thins (ids.foldlM (tickSession k) r).val := by
  induction ids generalizing r with
  | nil => exact .refl r
  | cons id ids ih =>
    have hstep : r.Thins (tickSession k r id).val := by
      unfold tickSession
      cases h : r.get? id with
      | none => exact .refl r
      | some v => exact Registry.thins_set h _
    exact hstep.trans (ih _)

theorem thins_timerTick (m : Monitor) (n : UInt32) :
    m.registry.Thins (m.timerTick n).val.registry := by
  let ticked := (m.vmIds.foldlM (tickSession (m.clock.advance n)) m.registry).val
  have hticks : m.registry.Thins ticked := thins_tickSessions _ _ _
  exact hticks.trans (thins_killAllFaulted (faultedIds ticked)
    { m.advanceClock n with registry := ticked })

theorem sound_timerTick (hm : Sound config m) (n : UInt32) : Sound config (m.timerTick n).val :=
  hm.steps (evolves_timerTick hm n).steps

theorem clock_timerTick (hm : Sound config m) (n : UInt32) :
    (m.timerTick n).val.clock = m.clock.advance n :=
  congrArg View.clock (timerTick_eq hm n ⟨0, 0⟩).1

theorem get?_timerTick (hm : Sound config m) (n : UInt32) (b : VmId) :
    (m.timerTick n).val.registry.get? b =
      (ticked (m.clock.advance n) (m.registry.get? b)).val.bind survivor :=
  congrArg View.session (timerTick_eq hm n b).1

/-! ## Runs -/

/-- An operation on no session is to each session what its own view makes it. -/
theorem alike_shared (hm : Sound config m) (hm' : Sound config m') (hop : op.subject? = none)
    (hhost : op.isForHost = false) (h : view b m = view b m') :
    Alike b (m.perform op) (m'.perform op) := by
  have hsession : m.registry.get? b = m'.registry.get? b := congrArg View.session h
  have hclock : m.clock = m'.clock := congrArg View.clock h
  have htrace : m.ioTrace = m'.ioTrace := congrArg View.ioTrace h
  cases op <;> cases hop <;> cases hhost
  case vmIds | vmForTask | summaries | ioTrace | now | modules | shellCommands => exact ⟨rfl, h⟩
  case setIoTrace on => exact ⟨rfl, congrArg (fun w : View => { w with ioTrace := on }) h⟩
  case advanceClock n =>
    exact ⟨rfl, congrArg (fun w : View => { w with clock := w.clock.advance n }) h⟩
  case addShellCommands batch =>
    have hview : ∀ m : Monitor, view b (m.perform (.addShellCommands batch)).val.2 = view b m := by
      intro m
      simp only [perform, val_pure, snd_ofShell, addShellCommands]
      split <;> rfl
    exact ⟨rfl, by rw [hview, hview, h]⟩
  case timerTick n =>
    obtain ⟨hview, hheard⟩ := timerTick_eq hm n b
    obtain ⟨hview', hheard'⟩ := timerTick_eq hm' n b
    refine ⟨?_, ?_⟩
    · rw [calls_eq_heard, calls_eq_heard]
      simp only [perform, heard_bind, hheard, hheard', hsession, hclock]
      rfl
    · simp only [perform, val_bind, val_pure, hview, hview', hsession, hclock, htrace]

/-- **Every operation** is to each session what its own view makes it, and so is the reply to its
own. -/
theorem alike_perform (hm : Sound config m) (hm' : Sound config m') (hhost : op.isForHost = false)
    (h : view b m = view b m') :
    Alike b (m.perform op) (m'.perform op) ∧
      (op.subject? = some b → (m.perform op).val.1 = (m'.perform op).val.1) := by
  cases hop : op.subject? with
  | none => exact ⟨alike_shared hm hm' hop hhost h, nofun⟩
  | some c =>
    have hconfined : Confined config c fun m => m.perform op := confined_perform hop hhost
    by_cases hb : b = c
    · subst hb
      have hsame := hconfined.alike hm hm' h
      exact ⟨hsame.toAlike, fun _ => hsame.reply⟩
    · refine ⟨(hconfined.spares hm hb).alike (hconfined.spares hm' hb) h, fun hc => ?_⟩
      exact absurd (Option.some.inj hc).symm hb

/-- The replies to the operations on one session. -/
def repliesTo (b : VmId) (ops : List Op) (replies : List Reply) : List Reply :=
  ((ops.zip replies).filter fun p => p.1.subject? = some b).map Prod.snd

theorem repliesTo_cons (op : Op) (ops : List Op) (r : Reply) (rs : List Reply) :
    repliesTo b (op :: ops) (r :: rs) =
      if op.subject? = some b then r :: repliesTo b ops rs else repliesTo b ops rs := by
  simp only [repliesTo, List.zip_cons_cons, List.filter_cons, decide_eq_true_eq]
  split <;> rfl

theorem val_run_cons (m : Monitor) (op : Op) (ops : List Op) :
    (m.run (op :: ops)).val =
      ((m.perform op).val.1 :: ((m.perform op).val.2.run ops).val.1,
        ((m.perform op).val.2.run ops).val.2) := rfl

theorem calls_run_cons (m : Monitor) (op : Op) (ops : List Op) :
    (m.run (op :: ops)).calls b =
      (m.perform op).calls b ++ ((m.perform op).val.2.run ops).calls b := by
  simp only [run, calls_bind, calls_pure, List.append_nil]

/-- Operations without those on one session. -/
def without (a : VmId) (ops : List Op) : List Op := ops.filter fun op => op.subject? ≠ some a

/-- Runs that begin alike for `b` go on alike, whether `a` is in them or not. -/
theorem alike_run (hm : Sound config m) (hm' : Sound config m') (hab : a ≠ b)
    (h : view b m = view b m') (ops : List Op) (hops : ∀ op ∈ ops, op.isForHost = false) :
    repliesTo b ops (m.run ops).val.1 = repliesTo b (without a ops) (m'.run (without a ops)).val.1 ∧
      Alike b (m.run ops) (m'.run (without a ops)) := by
  induction ops generalizing m m' with
  | nil => exact ⟨rfl, rfl, h⟩
  | cons op ops ih =>
    obtain ⟨hop, hops⟩ := List.forall_mem_cons.1 hops
    have hnext := hm.steps (remembered_perform hm op).steps
    rw [val_run_cons, repliesTo_cons]
    by_cases ha : op.subject? = some a
    · -- Only the run with `a` takes the step, and `b` sees nothing of it.
      have hspares : Spares b m (m.perform op) := (confined_perform ha hop).spares hm hab.symm
      obtain ⟨hreplies, hcalls, hafter⟩ := ih hnext hm' (hspares.after.trans h) hops
      have hwithout : without a (op :: ops) = without a ops := by simp [without, ha]
      have hb : op.subject? ≠ some b := by simpa [ha] using hab
      rw [hwithout, if_neg hb]
      refine ⟨hreplies, ?_, hafter⟩
      rw [calls_run_cons, hspares.calls, hcalls]
      rfl
    · -- Both runs take the step.
      obtain ⟨halike, hreply⟩ := @alike_perform config m m' b op hm hm' hop h
      have hnext' := hm'.steps (remembered_perform hm' op).steps
      obtain ⟨hreplies, hcalls, hafter⟩ := ih hnext hnext' halike.after hops
      have hwithout : without a (op :: ops) = op :: without a ops := by simp [without, ha]
      rw [hwithout, val_run_cons, repliesTo_cons, hreplies]
      refine ⟨?_, ?_, hafter⟩
      · split
        next hb => rw [hreply hb]
        next => rfl
      · rw [calls_run_cons, calls_run_cons, halike.calls, hcalls]

/-- **Sessions are isolated.** Without the operations on session `a`, session `b` is answered the
same, is called for the same in the same order, and is the same at the end. -/
theorem sessions_isolated (hm : Reachable config m) (hab : a ≠ b) {ops : List Op}
    (hops : ∀ op ∈ ops, op.isForHost = false) :
    repliesTo b ops (m.run ops).val.1 = repliesTo b (without a ops) (m.run (without a ops)).val.1 ∧
      (m.run ops).calls b = (m.run (without a ops)).calls b ∧
      (m.run ops).val.2.registry.get? b = (m.run (without a ops)).val.2.registry.get? b := by
  obtain ⟨hreplies, halike⟩ := alike_run hm.sound hm.sound hab rfl ops hops
  exact ⟨hreplies, halike.calls, congrArg View.session halike.after⟩

/-- The guest of `a` is at fault in the middle of a tick in which the device of `b` is called. -/
theorem isolated_from_fault :
    let config : Config := { guestMemory := 0x500 }
    let a : VmId := ⟨0, 0⟩
    let b : VmId := ⟨1, 0⟩
    let wild : ExternalDevice :=
      { name := "wild", respond := fun _ => { actions := [.guest (.interrupt 8)] } }
    let meter : ExternalDevice :=
      { name := "meter", respond := fun _ => { actions := [.guest .vif] } }
    let ops : List Op :=
      [.attach a (.external wild), .attach b (.external meter), .timerTick 1, .isAlive a,
        .isAlive b]
    ∃ m, Reachable config m ∧ a ≠ b ∧ (∀ op ∈ ops, op.isForHost = false) ∧
      (m.run ops).deaths = [a] ∧
      (m.run ops).calls b = [.device "meter" b (.tick 1) [.guest (.flag false)]] ∧
      repliesTo b ops (m.run ops).val.1 =
        repliesTo b (without a ops) (m.run (without a ops)).val.1 ∧
      (m.run ops).calls b = (m.run (without a ops)).calls b ∧
      (m.run ops).val.2.registry.get? b = (m.run (without a ops)).val.2.registry.get? b := by
  intro config a b wild meter ops
  let m₀ : Monitor :=
    { config, clock := { hz := config.tickHz }, registry := .ofSize config.maxVms }
  have hreachable : Reachable config (m₀.run [.create, .create]).val.2 := ⟨m₀, _, rfl, rfl⟩
  have hne : a ≠ b := by decide
  have hops : ∀ op ∈ ops, op.isForHost = false := by simp [ops, Op.isForHost]
  refine ⟨_, hreachable, hne, hops, ?_, ?_, sessions_isolated hreachable hne hops⟩
  · cbv
  · cbv

end RealModeMonitor.Monitor
