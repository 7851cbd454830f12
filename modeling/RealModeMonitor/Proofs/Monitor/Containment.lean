import RealModeMonitor.Proofs.Monitor.Outcome

/-!
# Faults are contained

**Theorem (`faults_contained`).** Between operations no live session has a faulted guest. A live
session dies at an operation exactly if the operation is to kill it, or the operation reaches the
session and tells of an interrupt or a return of its guest outside memory.

An operation reaches the session that it names; a tick reaches every session; a host line reaches
its owner; a report on timers reaches the sessions that have one (`Reaches`). Of a session that an
operation does not reach nothing is heard (`heard_perform`), so no session dies of the fault of
another.

Nor does anything else end a session: an interrupt that its guest is not ready for is not stray, and
neither is a command that a device rejects, or any other failure.
-/

namespace RealModeMonitor

open Traced

variable {config : Config} {b c : VmId}

/-! ## What faults a guest -/

/-- An interrupt faults a guest that admits it if an address does not fit: of the vector's target,
or on the stack. -/
theorem Guest.faulted_interrupt_iff (g : Guest) (vector : UInt8) :
    (g.interrupt vector).2.faulted = true ↔ g.faulted = true ∨
      (g.isResumable = true ∧ ∃ a ∈ g.entryAddresses vector, ¬g.memory.Fits a 2) := by
  rw [faulted_interrupt, Bool.or_eq_true, strayed_interrupt_iff]

/-- A return faults a guest if an address on the stack does not fit. -/
theorem Guest.faulted_iret_iff (g : Guest) :
    g.iret.2.faulted = true ↔
      g.faulted = true ∨ ∃ a ∈ g.returnAddresses, ¬g.memory.Fits a 2 := by
  have hstray : (!g.iret.1.isOk) = true ↔ ∃ a ∈ g.returnAddresses, ¬g.memory.Fits a 2 := by
    rw [Bool.not_eq_true', ← Bool.not_eq_true, isOk_iret_iff]
    simp
  rw [faulted_iret, Bool.or_eq_true, hstray]

namespace Monitor

variable {m : Monitor} {op : Op}

/-! ## Whom operations reach -/

/-- Whether a line asks the shell for the state of timers. -/
def asksTimers (m : Monitor) (line : String) : Bool :=
  match Text.words line with
  | [] => false
  | name :: arguments =>
    match (m.shell.lookup? name).map ShellCommand.action with
    | some .vminfo => (ReportOptions.ofWords? arguments).any ReportOptions.timer
    | _ => false

def hasTimer (m : Monitor) (id : VmId) : Bool :=
  (m.registry.get? id).any fun v => v.timer?.isSome

inductive Reaches (m : Monitor) (id : VmId) : Op → Prop where
  | named {op : Op} (subject : op.subject? = some id) : Reaches m id op
  | tick (n : UInt32) : Reaches m id (.timerTick n)
  | hostLine {irq : UInt8} (owner : m.registry.irqOwner? irq = some id) :
      Reaches m id (.hardwareIrq irq)
  | report {line : String} (asks : m.asksTimers line = true) (timer : m.hasTimer id = true) :
      Reaches m id (.runShell line)

/-! ## Operations on another session -/

/-- An operation on session `c` that is not work on it. -/
theorem heard_aside {clock : Clock} {ioTrace : Bool} (hm : Settled config m)
    (hsubject : op.subject? = some c) (hwork : op.work? clock ioTrace = none) (hb : b ≠ c) :
    (m.perform op).heard b = [] := by
  cases op <;> cases hsubject <;> cases hwork
  case isAlive | ioHandler | removeIoHandler | serviceName | removeService => rfl
  case kill => rw [heard_kill, heard_bury_eq hm.named, if_neg hb]
  case grabIrq irq => exact ((grabIrq_outcome hm c irq).2.1 b).silent
  all_goals rw [perform, heard_map]
  case attach d => exact (installs_attachDevice hm c d).silent b
  case install d => exact (installs_installDevice hm c d).silent b
  case installPic | installPit | installDma => exact (installs_installDevice hm c _).silent b
  case installCmos => exact (installs_installCmos hm c).silent b
  case installStandard => exact (installs_installStandardDevices hm c).silent b

/-- Of another session nothing is heard at an operation on session `c`. -/
theorem heard_of_subject (hm : Settled config m) (hsubject : op.subject? = some c) (hb : b ≠ c) :
    (m.perform op).heard b = [] := by
  cases hwork : op.work? m.clock m.ioTrace with
  | none => exact heard_aside hm hsubject hwork hb
  | some found =>
    obtain ⟨c', work⟩ := found
    obtain rfl : c' = c := Option.some.inj ((subject?_of_work hwork).symm.trans hsubject)
    rw [perform_work hwork, onSession_eq_withVm, heard_map]
    refine heard_withVm_other hm.toSound (fun v hid => ⟨?_, ?_⟩) hb
    · exact (keeps_work hwork v).id
    · exact .bind (notes_work hwork hid) (only_pure _)

/-! ## Reports -/

/-- The timer of session `b`, if it has one, is left alone. -/
theorem misses_timerReport (hm : Settled config m) (hb : m.hasTimer b = false) (c : VmId) :
    Misses b m (m.timerReport c) := by
  refine .bind ?_ ?_
  · by_cases hc : b = c
    · subst hc
      unfold timerChannels inspectTimer
      cases live : m.registry.get? b with
      | none =>
        rw [withVm_dead live]
        exact misses_pure b m _
      | some v =>
        have htimer : v.timer? = none := by simpa [hasTimer, live] using hb
        rw [withVm_same (r := .error (.noSuchDevice b .pit)) hm live
          (by simp [Vm.syncTimer, htimer])]
        exact misses_pure b m _
    · exact misses_withVm hm.toSound (fun v _ => serves_inspectTimer c m.clock _ v) hc
  · dsimp only
    split <;> exact misses_pure b _ _

theorem Misses.hasTimer {α : Type} {x : Traced (α × Monitor)} (hx : Misses b m x) :
    x.val.2.hasTimer b = m.hasTimer b :=
  congrArg (Option.any _) hx.same

theorem composable_misses (b : VmId) :
    Composable fun {α} m (x : Traced (α × Monitor)) => Misses b m x :=
  ⟨misses_pure b, .bind⟩

/-- Session `b` is left alone if it has no timer, or timers are not asked for. -/
theorem misses_report (hm : Settled config m) {o : ReportOptions}
    (hb : o.timer = true → m.hasTimer b = false) (ss : List VmSummary) :
    Misses b m (report o m ss) := by
  have hpieces := (composable_misses b).under fun m =>
    Settled config m ∧ (o.timer = true → m.hasTimer b = false)
  refine (hpieces.report (fun m id hm => ?_) (fun ho s _ m hm => ?_) m ⟨hm, hb⟩).1
  · obtain ⟨text, htext⟩ := controllerReport_eq hm.1 id
    rw [htext]
    exact ⟨misses_pure b m text, hm⟩
  · have hmisses := misses_timerReport hm.1 (hm.2 ho) s.id
    exact ⟨hmisses, (goes_timerReport hm.1 s.id).settled hm.1, fun ho =>
      hmisses.hasTimer.trans (hm.2 ho)⟩

theorem misses_runShell (hm : Settled config m) {line : String}
    (hb : m.asksTimers line = true → m.hasTimer b = false) : Misses b m (m.runShell line) := by
  obtain ⟨r, hrun⟩ | ⟨r, on, hrun⟩ | ⟨_, _, _, o, hwords, ⟨hcommand, haction⟩, hoptions, hrun⟩ :=
    m.runShell_cases line
  all_goals rw [hrun]
  · exact misses_pure b m r
  · exact ⟨rfl, rfl⟩
  · have hasks : m.asksTimers line = o.timer := by
      simp [asksTimers, hwords, hcommand, haction, hoptions]
    exact (misses_report hm (hasks ▸ hb) m.summaries).bind (misses_pure b _ _)

/-! ## All operations -/

/-- An operation that is on no session. -/
theorem heard_shared (hm : Settled config m) (hsubject : op.subject? = none)
    (hb : ¬m.Reaches b op) : (m.perform op).heard b = [] := by
  cases op <;> cases hsubject
  case vmIds | vmForTask | summaries | setIoTrace | ioTrace | advanceClock | now | openModule |
      closeModule | expungeModule | modules | addShellCommands | shellCommands =>
    exact (notes_of_idle rfl m).not_heard
  case releaseIrq => rfl
  case timerTick n => exact absurd (.tick n) hb
  all_goals rw [perform, heard_map]
  case create => exact m.notes_createVm.not_heard
  case hardwareIrq irq =>
    cases howner : m.registry.irqOwner? irq with
    | none =>
      rw [hardwareIrq_unowned howner]
      rfl
    | some owner =>
      have hother : b ≠ owner := fun heq => hb (.hostLine (heq ▸ howner))
      have hmisses := misses_withVm (g := raiseOn owner irq) hm.toSound
        (fun v _ => serves_raiseOn owner v irq) hother
      rw [hardwareIrq_owned hm howner, heard_map]
      exact hmisses.silent
  case runShell line =>
    refine (misses_runShell hm fun hasks => ?_).silent
    exact Bool.eq_false_iff.2 fun htimer => hb (.report hasks htimer)

/-- **Of a session that is not reached** nothing is heard. -/
theorem heard_perform (hm : Settled config m) (hb : ¬m.Reaches b op) :
    (m.perform op).heard b = [] := by
  cases hsubject : op.subject? with
  | some c => exact heard_of_subject hm hsubject fun heq => hb (.named (heq ▸ hsubject))
  | none => exact heard_shared hm hsubject hb

theorem reaches_of_told (hm : Settled config m) (h : told b op (m.perform op) = true) :
    m.Reaches b op := by
  by_contra hb
  have hsubject : op.subject? ≠ some b := fun hsubject => hb (.named hsubject)
  rw [told, strays_of_silent (heard_perform hm hb), decide_eq_false hsubject] at h
  cases h

/-- Sessions die of their own faults, and of no others. -/
structure Contained (m : Monitor) : Prop where
  unfaulted : ∀ id v, m.registry.get? id = some v → v.guest.faulted = false
  dies : ∀ op id, m.isAlive id = true →
    ((m.perform op).val.2.isAlive id = false ↔
      op = .kill id ∨ (m.Reaches id op ∧ told id op (m.perform op) = true))
  unreached : ∀ op id, ¬m.Reaches id op → (m.perform op).heard id = []

theorem Settled.contained (hm : Settled config m) : Contained m where
  unfaulted := hm.unfaulted
  dies op id halive := by
    obtain ⟨ends, hfate, hends⟩ := fate_perform hm op fun hop => hop ▸ ne_newcomer hm halive
    have htold : told id op (m.perform op) = true ↔
        m.Reaches id op ∧ told id op (m.perform op) = true :=
      ⟨fun h => ⟨reaches_of_told hm h, h⟩, And.right⟩
    rw [← htold, ← hends halive]
    exact hfate.ends_iff halive
  unreached op id := heard_perform hm

/-- **Faults are contained** in every reachable monitor. What faults a guest is an interrupt that it
admits, or a return, with an address that does not fit into its memory. -/
theorem faults_contained (hm : Reachable config m) :
    Contained m ∧
      (∀ (g : Guest) (vector : UInt8), (g.interrupt vector).2.faulted = true ↔ g.faulted = true ∨
        (g.isResumable = true ∧ ∃ a ∈ g.entryAddresses vector, ¬g.memory.Fits a 2)) ∧
      ∀ g : Guest, g.iret.2.faulted = true ↔
        g.faulted = true ∨ ∃ a ∈ g.returnAddresses, ¬g.memory.Fits a 2 :=
  ⟨hm.settled.contained, Guest.faulted_interrupt_iff, Guest.faulted_iret_iff⟩

/-- A host line ends the session that owns it, whose stack is outside memory, and not the other. -/
theorem contained_on_host_line :
    ∃ m, Reachable { guestMemory := 0x500 } m ∧ m.vmIds = [⟨0, 0⟩, ⟨1, 0⟩] ∧
      m.registry.irqOwner? 5 = some ⟨0, 0⟩ ∧
      told ⟨0, 0⟩ (.hardwareIrq 5) (m.perform (.hardwareIrq 5)) = true ∧
      (m.perform (.hardwareIrq 5)).val.2.vmIds = [⟨1, 0⟩] ∧ Contained m := by
  have hreachable : Reachable { guestMemory := 0x500 } _ := reachable_run rfl
    [.create, .create, .installPic ⟨0, 0⟩, .ioOut ⟨0, 0⟩ 0x21 (.byte 0), .enableInterrupts ⟨0, 0⟩,
      .grabIrq ⟨0, 0⟩ 5]
  exact ⟨_, hreachable, by cbv, by cbv, by cbv, by cbv, (faults_contained hreachable).1⟩

end Monitor
end RealModeMonitor
