import RealModeMonitor.Proofs.Monitor.Batching
import RealModeMonitor.Proofs.Shell.Registration

/-!
# The shell of a monitor

A monitor starts with the commands it brings along and is given others batch by batch. Nothing else
that it is asked for touches its shell (`keepsShell_perform`), not even running a command. So after
any operations its shell is the one that was offered the batches among them (`shell_run`), and all
that holds of shells holds of the commands of a running monitor.

Main result: `registers_whole_batches`.
-/

namespace RealModeMonitor.Monitor

open Traced

variable {α β : Type} {m : Monitor} {op : Op} {batch : List ShellCommand}

/-! ## What leaves the shell alone -/

/-- `x`, which starts at `m`, leaves the shell as it is. -/
def KeepsShell (m : Monitor) (x : Traced (α × Monitor)) : Prop := x.val.2.shell = m.shell

theorem KeepsShell.bind {x : Traced (α × Monitor)} {f : α × Monitor → Traced (β × Monitor)}
    (hx : KeepsShell m x) (hf : KeepsShell x.val.2 (f x.val)) : KeepsShell m (x >>= f) :=
  hf.trans hx

theorem composable_keepsShell : Composable @KeepsShell := ⟨fun _ _ => rfl, .bind⟩

theorem KeepsShell.map {x : Traced (α × Monitor)} (hx : KeepsShell m x)
    {f : α × Monitor → β × Monitor} (hf : ∀ y, (f y).2 = y.2) : KeepsShell m (f <$> x) := by
  rwa [KeepsShell, val_map, hf]

theorem shell_killFaulted (m : Monitor) (id : VmId) : (m.killFaulted id).val.shell = m.shell :=
  (m.host_bury id).2

theorem keepsShell_withVm (m : Monitor) (id : VmId)
    (f : Vm → Traced (Except MonitorError α × Vm)) : KeepsShell m (m.withVm id f) := by
  unfold KeepsShell withVm
  cases m.registry.get? id with
  | none => rfl
  | some v =>
    simp only [val_bind]
    split
    · rw [val_bind, val_pure, shell_killFaulted]
    · rfl

/-! ## Devices -/

theorem keepsShell_attachDevice (m : Monitor) (id : VmId) (d : Device) :
    KeepsShell m (m.attachDevice id d) := by
  unfold KeepsShell attachDevice
  cases m.registry.get? id with
  | none => rfl
  | some v =>
    simp only [val_bind]
    split <;> rfl

theorem keepsShell_installDevice (m : Monitor) (id : VmId) (d : Device) :
    KeepsShell m (m.installDevice id d) := by
  unfold KeepsShell installDevice
  cases m.registry.get? id with
  | none => rfl
  | some v =>
    simp only [val_bind]
    split
    · rfl
    · split <;> rfl

theorem keepsShell_installCmos (m : Monitor) (id : VmId) : KeepsShell m (m.installCmos id) :=
  composable_keepsShell.installCmos (m.keepsShell_withVm id _) fun _ _ =>
    keepsShell_installDevice _ id _

theorem keepsShell_installStandardDevices (m : Monitor) (id : VmId) :
    KeepsShell m (m.installStandardDevices id) :=
  composable_keepsShell.installStandardDevices (keepsShell_installDevice · id _)
    (keepsShell_installDevice · id _) (keepsShell_installDevice · id _)
    (keepsShell_installCmos · id) m

/-! ## Sessions and host lines -/

theorem keepsShell_createVm (m : Monitor) : KeepsShell m m.createVm := by
  unfold KeepsShell createVm
  split
  · rfl
  split
  · rfl
  simp only [val_bind]
  split <;> rfl

theorem keepsShell_grabIrq (m : Monitor) (id : VmId) (irq : UInt8) :
    KeepsShell m (m.grabIrq id irq) := by
  unfold KeepsShell grabIrq
  split
  · split
    · rfl
    · split <;> rfl
  · rfl

theorem keepsShell_hardwareIrq (m : Monitor) (irq : UInt8) : KeepsShell m (m.hardwareIrq irq) := by
  unfold KeepsShell hardwareIrq
  split
  · rfl
  split
  · rfl
  split
  · rfl
  simp only [val_bind]
  split
  · rw [val_bind, val_pure, shell_killFaulted]
  · rfl

/-! ## Commands that run -/

theorem keepsShell_controllerReport (m : Monitor) (id : VmId) :
    KeepsShell m (m.controllerReport id) := by
  refine .bind (m.keepsShell_withVm id _) ?_
  dsimp only
  split <;> rfl

theorem keepsShell_timerReport (m : Monitor) (id : VmId) : KeepsShell m (m.timerReport id) := by
  refine .bind (m.keepsShell_withVm id _) ?_
  dsimp only
  split <;> rfl

theorem keepsShell_runShell (m : Monitor) (line : String) : KeepsShell m (m.runShell line) :=
  composable_keepsShell.runShell keepsShell_controllerReport keepsShell_timerReport
    (fun _ _ _ => rfl) m line

/-! ## Every operation -/

/-- The batch that an operation offers to the shell. -/
def Op.batch? : Op → Option (List ShellCommand)
  | .addShellCommands batch => some batch
  | _ => none

/-- An operation that is not work on one session. -/
theorem keepsShell_other {clock : Clock} {ioTrace : Bool} (m : Monitor)
    (hwork : op.work? clock ioTrace = none) (h : op.batch? = none) :
    KeepsShell m (m.perform op) := by
  cases op <;> cases h <;> cases hwork
  case isAlive | vmIds | vmForTask | summaries | ioHandler | ioTrace | serviceName | now | modules |
      shellCommands | setIoTrace | advanceClock | releaseIrq =>
    rfl
  case openModule | closeModule | expungeModule => exact KeepsShell.map rfl (snd_ofResult _)
  case create => exact m.keepsShell_createVm.map (snd_ofResult _)
  case kill id => exact (congrArg shell (m.val_kill id)).trans (m.host_bury id).2
  case timerTick n => exact (m.host_timerTick n).2
  case attach id d => exact (m.keepsShell_attachDevice id d).map (snd_ofResult _)
  case install id d => exact (m.keepsShell_installDevice id d).map (snd_ofResult _)
  case installPic id => exact (m.keepsShell_installDevice id _).map (snd_ofResult _)
  case installPit id => exact (m.keepsShell_installDevice id _).map (snd_ofResult _)
  case installDma id => exact (m.keepsShell_installDevice id _).map (snd_ofResult _)
  case installCmos id => exact (m.keepsShell_installCmos id).map (snd_ofResult _)
  case installStandard id =>
    exact (m.keepsShell_installStandardDevices id).map (snd_ofResult _)
  case removeIoHandler id range =>
    show (m.removeIoHandler id range).shell = m.shell
    unfold removeIoHandler
    split <;> rfl
  case removeService id number =>
    show (m.removeService id number).shell = m.shell
    unfold removeService
    split <;> rfl
  case grabIrq id irq => exact (m.keepsShell_grabIrq id irq).map (snd_ofResult _)
  case hardwareIrq irq => exact (m.keepsShell_hardwareIrq irq).map (snd_ofResult _)
  case runShell line => exact (m.keepsShell_runShell line).map (snd_ofShell _)

/-- **Nothing but a batch** touches the shell. -/
theorem keepsShell_perform (m : Monitor) (h : op.batch? = none) : KeepsShell m (m.perform op) := by
  cases hwork : op.work? m.clock m.ioTrace with
  | some found =>
    obtain ⟨id, work⟩ := found
    rw [perform_work hwork, onSession_eq_withVm]
    exact (m.keepsShell_withVm id _).map (snd_ofResult _)
  | none => exact m.keepsShell_other hwork h

theorem addShellCommands_eq (m : Monitor) (batch : List ShellCommand) :
    m.addShellCommands batch =
      ((m.shell.add batch).map fun _ => (), { m with shell := m.shell.offer batch }) := by
  unfold addShellCommands Shell.offer
  cases m.shell.add batch <;> rfl

theorem shell_perform_of_batch (m : Monitor) (h : op.batch? = some batch) :
    (m.perform op).val.2.shell = m.shell.offer batch := by
  cases op <;> cases h
  rw [perform, val_pure, snd_ofShell, addShellCommands_eq]

/-- **The shell after a run** is the one that was offered the batches of the run. -/
theorem shell_run (m : Monitor) (ops : List Op) :
    (m.run ops).val.2.shell = m.shell.offerAll (ops.filterMap Op.batch?) := by
  induction ops generalizing m with
  | nil => rfl
  | cons op ops ih =>
    refine (ih _).trans ?_
    cases hop : op.batch? with
    | none => rw [List.filterMap_cons_none hop, m.keepsShell_perform hop]
    | some batch =>
      rw [List.filterMap_cons_some hop, m.shell_perform_of_batch hop]
      rfl

theorem shell_start {config : Config} (h : (start config).val = .ok m) : m.shell = .initial := by
  obtain ⟨-, rfl⟩ := start_eq_ok h
  rfl

/-! ## Registration -/

/-- **Batches are registered whole or not at all.** Whatever batches were offered to a shell that
began with the commands of the monitor, its names are unique, and of the next batch it registers all
commands or none. A name leads to the one command that is registered under it, and to the same one
whatever is offered later. Such is the shell of every running monitor, whatever else the monitor is
asked for, and offering it a batch changes nothing else of it. -/
theorem registers_whole_batches (earlier : List (List ShellCommand)) (batch : List ShellCommand) :
    let s := Shell.initial.offerAll earlier
    s.names.Nodup ∧ s.Registers batch ∧
    (∀ name c, s.lookup? name = some c ↔ c ∈ s.commands ∧ c.name = name) ∧
    (∀ name, s.lookup? name = none ↔ name ∉ s.names) ∧
    (∀ name c later, s.lookup? name = some c → (s.offerAll later).lookup? name = some c) ∧
    (∀ config m ops, (start config).val = .ok m → ops.filterMap Op.batch? = earlier →
      (m.run ops).val.2.shell = s) ∧
    ∀ m : Monitor, m.shell = s →
      m.addShellCommands batch =
        ((s.add batch).map fun _ => (), { m with shell := s.offer batch }) := by
  intro s
  have hnames : s.names.Nodup := Shell.nodup_names_offerAll Shell.nodup_names_initial earlier
  refine ⟨hnames, s.registers batch, fun name c => Shell.lookup?_eq_some_iff hnames,
    fun name => Shell.lookup?_eq_none_iff, fun name c later h => Shell.lookup?_offerAll h later,
    ?_, ?_⟩
  · intro config m ops hstart hops
    rw [shell_run, shell_start hstart, hops]
  · intro m hm
    rw [addShellCommands_eq, hm]

/-- A batch that clashes with an earlier one, and after that with itself, and the part of it that
does not. -/
theorem registers_none_of_clash :
    let ver : ShellCommand := ⟨"ver", "ver", .modules⟩
    let mem : ShellCommand := ⟨"mem", "mem", .modules⟩
    let s := Shell.initial.offerAll [[ver]]
    let m := ((started {}).run [.addShellCommands [ver], .runShell "ver"]).val.2
    s.add [mem, ver, mem] = .error (.duplicate "ver") ∧ s.offer [mem, ver, mem] = s ∧
      (∃ c, s.ClashesFirst [mem, ver, mem] c ∧
        ShellError.duplicate "ver" = .duplicate c.name) ∧
      s.add [mem] = .ok (s.offer [mem]) ∧ (s.offer [mem]).commands = s.commands ++ [mem] ∧
      s.lookup? "ver" = some ver ∧
      (s.offerAll [[mem, ver], [mem]]).lookup? "ver" = some ver ∧
      (start {}).val = .ok (started {}) ∧ m.shell = s ∧
      m.addShellCommands [mem, ver, mem] = (.error (.duplicate "ver"), m) := by
  intro ver mem s m
  obtain ⟨-, hregisters, -, -, hlasting, hrun, hadd⟩ :=
    registers_whole_batches [[ver]] [mem, ver, mem]
  have hrefused : s.add [mem, ver, mem] = .error (.duplicate "ver") := rfl
  have hkeeps : s.offer [mem, ver, mem] = s := hregisters.keeps _ hrefused
  have htaken : s.add [mem] = .ok (s.offer [mem]) := rfl
  have hlookup : s.lookup? "ver" = some ver := rfl
  have hstart : (start {}).val = .ok (started {}) := rfl
  have hshell : m.shell = s :=
    hrun {} (started {}) [.addShellCommands [ver], .runShell "ver"] hstart rfl
  refine ⟨hrefused, hkeeps, (hregisters.refuses _).1 hrefused, htaken,
    ((registers_whole_batches [[ver]] [mem]).2.1.appends _ htaken).2, hlookup,
    hlasting _ _ _ hlookup, hstart, hshell, ?_⟩
  rw [hadd m hshell, hrefused, hkeeps, ← hshell]
  rfl

end RealModeMonitor.Monitor
