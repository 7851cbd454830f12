import RealModeMonitor.Monitor.Devices
import RealModeMonitor.Monitor.Commands

/-!
# Pieces in turn

Most of what a monitor is asked for is one piece of work. Installing the standard devices and
running a shell command are more: pieces in turn, each of which starts from the monitor that the one
before it left. A property of pieces is **composable** if it holds where nothing is done, and of two
pieces in turn if it holds of both. Then it holds of all four installs if it holds of each
(`Composable.installStandardDevices`), and of every line that is run if it holds of a look at a
controller, of bringing a timer up to date, and of switching the tracing (`Composable.runShell`).
-/

namespace RealModeMonitor.Monitor

variable {P : {α : Type} → Monitor → Traced (α × Monitor) → Prop} {I : Monitor → Prop} {α β : Type}
  {m : Monitor} {id : VmId}

/-- `P m x` says something of the piece `x`, which starts from `m`. -/
structure Composable (P : {α : Type} → Monitor → Traced (α × Monitor) → Prop) : Prop where
  pure : ∀ {α : Type} (m : Monitor) (a : α), P m (Pure.pure (a, m))
  bind : ∀ {α β : Type} {m : Monitor} {x : Traced (α × Monitor)}
    {f : α × Monitor → Traced (β × Monitor)}, P m x → P x.val.2 (f x.val) → P m (x >>= f)

/-- Pieces that keep an invariant. -/
theorem composable_keeps (I : Monitor → Prop) :
    Composable fun {α} m (x : Traced (α × Monitor)) => I m → I x.val.2 where
  pure _ _ hm := hm
  bind hx hf hm := hf (hx hm)

namespace Composable

/-- A property that relies on an invariant, which the pieces keep. -/
theorem under (h : Composable P) (I : Monitor → Prop) :
    Composable fun {α} m (x : Traced (α × Monitor)) => I m → P m x ∧ I x.val.2 where
  pure m a hm := ⟨h.pure m a, hm⟩
  bind hx hf hm :=
    have hfirst := hx hm
    have hrest := hf hfirst.2
    ⟨h.bind hfirst.1 hrest.1, hrest.2⟩

/-! ## Installs -/

theorem installCmos (h : Composable P)
    (hlook : P m (m.inspectVm id fun v => .ok v.guest.memory.size))
    (hinstall : ∀ m size, P m (m.installDevice id (.cmos (.initial size)))) :
    P m (m.installCmos id) := by
  refine h.bind hlook ?_
  dsimp only
  split
  · exact h.pure _ _
  · exact hinstall _ _

theorem inOrder (h : Composable P)
    {fs : List (Monitor → Traced (Except MonitorError DeviceId × Monitor))}
    (hfs : ∀ f ∈ fs, ∀ m, P m (f m)) (m : Monitor) : P m (m.inOrder fs) := by
  induction fs generalizing m with
  | nil => exact h.pure m _
  | cons f fs ih =>
    obtain ⟨hf, hfs⟩ := List.forall_mem_cons.1 hfs
    refine h.bind (hf m) ?_
    dsimp only
    split
    · exact h.pure _ _
    · exact ih hfs _

theorem installStandardDevices (h : Composable P) (hpic : ∀ m, P m (m.installPic id))
    (hpit : ∀ m, P m (m.installPit id)) (hdma : ∀ m, P m (m.installDma id))
    (hcmos : ∀ m, P m (m.installCmos id)) (m : Monitor) : P m (m.installStandardDevices id) := by
  refine h.inOrder ?_ m
  simp only [List.forall_mem_cons, List.not_mem_nil, false_imp_iff, implies_true, and_true]
  exact ⟨hpic, hpit, hdma, hcmos⟩

/-! ## Reports -/

/-- Part of a report, if it is asked for. -/
theorem optional (h : Composable P) {p : Prop} [Decidable p] {x : Traced (α × Monitor)} {a : α}
    {f : α × Monitor → Traced (β × Monitor)} (hx : p → P m x) (hf : ∀ y, P y.2 (f y)) :
    P m (if p then x >>= f else Pure.pure (a, m) >>= f) := by
  split
  next hp => exact h.bind (hx hp) (hf _)
  next => exact h.bind (h.pure m a) (hf _)

theorem sessionReport (h : Composable P) (hcontroller : ∀ m id, P m (m.controllerReport id))
    {o : ReportOptions} {s : VmSummary}
    (htimer : o.timer = true → ∀ m : Monitor, P m (m.timerReport s.id)) (m : Monitor) :
    P m (sessionReport o m s) :=
  h.optional (fun _ => hcontroller m s.id) fun y =>
    h.optional (fun ho => htimer ho y.2) fun _ => h.pure _ _

theorem report (h : Composable P) (hcontroller : ∀ m id, P m (m.controllerReport id))
    {o : ReportOptions} {ss : List VmSummary}
    (htimer : o.timer = true → ∀ s ∈ ss, ∀ m : Monitor, P m (m.timerReport s.id)) (m : Monitor) :
    P m (report o m ss) := by
  induction ss generalizing m with
  | nil => exact h.pure m _
  | cons s ss ih =>
    have hfirst := h.sessionReport hcontroller (fun ho => htimer ho s List.mem_cons_self) m
    have hrest := ih fun ho s' hs' => htimer ho s' (List.mem_cons_of_mem s hs')
    exact h.bind hfirst (h.bind (hrest _) (h.pure _ _))

end Composable

/-! ## Lines that are run -/

theorem dbio_eq (m : Monitor) (arguments : List String) :
    (∃ r on, m.dbio arguments = (r, m.setIoTrace on)) ∨ ∃ r, m.dbio arguments = (r, m) := by
  unfold dbio
  split
  · exact .inl ⟨_, _, rfl⟩
  · split
    · exact .inl ⟨_, _, rfl⟩
    · exact .inr ⟨_, rfl⟩

theorem vminfo_eq (m : Monitor) (arguments : List String) :
    (∃ r, m.vminfo arguments = pure (r, m)) ∨
      ∃ o, ReportOptions.ofWords? arguments = some o ∧
        m.vminfo arguments = report o m m.summaries >>= fun p => pure (.ok p.1, p.2) := by
  unfold vminfo
  split
  · exact .inl ⟨_, rfl⟩
  next o hoptions =>
    split
    · exact .inl ⟨_, rfl⟩
    · exact .inr ⟨o, hoptions, rfl⟩

/-- What a line comes to: an answer, a switch of the tracing, or a report. -/
theorem runShell_cases (m : Monitor) (line : String) :
    (∃ r, m.runShell line = pure (r, m)) ∨
    (∃ r on, m.runShell line = pure (r, m.setIoTrace on)) ∨
    ∃ name arguments c o, Text.words line = name :: arguments ∧
      (m.shell.lookup? name = some c ∧ c.action = .vminfo) ∧
      ReportOptions.ofWords? arguments = some o ∧
      m.runShell line = report o m m.summaries >>= fun p => pure (.ok p.1, p.2) := by
  unfold runShell
  split
  · exact .inl ⟨_, rfl⟩
  next name arguments hwords =>
    split
    · exact .inl ⟨_, rfl⟩
    next c hcommand =>
      cases haction : c.action with
      | modules | help | external => exact .inl ⟨_, rfl⟩
      | dbio =>
        obtain ⟨r, on, h⟩ | ⟨r, h⟩ := m.dbio_eq arguments
        · exact .inr (.inl ⟨r, on, congrArg Pure.pure h⟩)
        · exact .inl ⟨r, congrArg Pure.pure h⟩
      | vminfo =>
        obtain ⟨r, h⟩ | ⟨o, hoptions, h⟩ := m.vminfo_eq arguments
        · exact .inl ⟨r, h⟩
        · exact .inr (.inr ⟨name, arguments, c, o, hwords, ⟨hcommand, haction⟩, hoptions, h⟩)

theorem Composable.runShell (h : Composable P)
    (hcontroller : ∀ (m : Monitor) id, P m (m.controllerReport id))
    (htimer : ∀ (m : Monitor) id, P m (m.timerReport id))
    (htrace : ∀ (m : Monitor) (r : Except ShellError String) on,
      P m (Pure.pure (r, m.setIoTrace on)))
    (m : Monitor) (line : String) : P m (m.runShell line) := by
  obtain ⟨r, hrun⟩ | ⟨r, on, hrun⟩ | ⟨_, _, _, o, -, -, -, hrun⟩ := m.runShell_cases line
  all_goals rw [hrun]
  · exact h.pure m r
  · exact htrace m r on
  · exact h.bind (h.report hcontroller (fun _ s _ m => htimer m s.id) m) (h.pure _ _)

end RealModeMonitor.Monitor
