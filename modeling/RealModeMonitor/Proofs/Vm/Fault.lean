import RealModeMonitor.Proofs.Guest.Interrupt
import RealModeMonitor.Proofs.InterruptController.Run
import RealModeMonitor.Proofs.Vm.Notes

/-!
# Every fault is told

An interrupt or a return whose vector or stack lies outside memory is **stray**, and leaves the
guest faulted for good. It may happen deep inside a call: in the offer that follows a port write,
in the expirations of a timer, in what a handler or a device does to the guest. Wherever it
happens, it is told: by a diagnostic of the controller, or by a reply that is recorded with the
call (`Note.isStray`).

`Traced.Reports vm x g g'` says that `x` takes the guest of session `vm` from `g` to `g'`, which is
faulted if `g` was or if something stray is heard of `vm` in `x`. There is one lemma for each
function, from the guest up to the calls of a whole session.
-/

namespace RealModeMonitor

open Traced

/-! ## Stray accesses -/

def InjectError.isStray : InjectError → Bool
  | memory _ => true
  | notResumable => false

/-- Whether an interrupt failed for an address outside memory. -/
def strayed {α : Type} : Except InjectError α → Bool
  | .ok _ => false
  | .error e => e.isStray

theorem strayed_map {α β : Type} (f : α → β) (r : Except InjectError α) :
    strayed (r.map f) = strayed r := by
  cases r <;> rfl

namespace Guest

def Reply.isStray : Reply → Bool
  | interruptFailed e => e.isStray
  | iretFailed _ => true
  | done | memory _ | view _ | flag _ => false

/-- The addresses of the words that an interrupt touches: the vector's target, then the stack. -/
def entryAddresses (g : Guest) (vector : UInt8) : List Nat :=
  [4 * vector.toNat, 4 * vector.toNat + 2, g.frame.pushAddress 2, g.frame.pushAddress 4,
    g.frame.pushAddress 6]

/-- The addresses of the words that a return touches. -/
def returnAddresses (g : Guest) : List Nat :=
  [g.frame.popAddress 0, g.frame.popAddress 2, g.frame.popAddress 4]

end Guest

def Device.Reply.isStray : Device.Reply → Bool
  | raised r => strayed r
  | guest r => r.isStray

/-- Whether a note tells of an interrupt or a return outside the memory of the guest it
concerns. -/
def Note.isStray : Note → Bool
  | .diagnostic (.deliveryFailed _ _ e) => e.isStray
  | .event (.device _ _ _ replies) => replies.any Device.Reply.isStray
  | .event (.serviceCalled _ _ _ replies) => replies.any Guest.Reply.isStray
  | _ => false

namespace Traced

variable {α β σ ι : Type} {vm b : VmId} {d : Diagnostic} {e : Event} {x : Traced α}
  {f : α → Traced β} {g g₁ g' : Guest}

/-- Whether something stray is heard of a session. -/
def strays (vm : VmId) (x : Traced α) : Bool := (x.heard vm).any Note.isStray

@[simp] theorem strays_pure (a : α) : (pure a : Traced α).strays vm = false := rfl

@[simp] theorem strays_bind (x : Traced α) (f : α → Traced β) :
    (x >>= f).strays vm = (x.strays vm || (f x.val).strays vm) := by
  simp [strays]

@[simp] theorem strays_map (f : α → β) (x : Traced α) : (f <$> x).strays vm = x.strays vm := by
  simp [strays]

@[simp] theorem strays_tell (vm : VmId) (d : Diagnostic) :
    (tell d).strays vm = ((Note.diagnostic d).vm? = some vm && (Note.diagnostic d).isStray) := by
  simp only [strays, heard, tell]
  by_cases h : (Note.diagnostic d).vm? = some vm <;> simp [h]

@[simp] theorem strays_record (vm : VmId) (e : Event) :
    (record e).strays vm = (e.vm = vm && (Note.event e).isStray) := by
  simp only [strays, heard, record]
  by_cases h : e.vm = vm <;> simp [h, Note.vm?]

theorem Only.not_strays (hx : x.Only Note.IsRemark) : x.strays vm = false := by
  rw [strays, hx.not_heard]
  rfl

/-- `x` takes the guest from `g` to `g'`, and tells if it becomes faulted on the way. -/
def Reports (vm : VmId) (x : Traced α) (g g' : Guest) : Prop :=
  g'.faulted = (g.faulted || x.strays vm)

theorem reports_of_silent (h : x.strays vm = false) (g : Guest) : x.Reports vm g g := by
  rw [Reports, h, Bool.or_false]

theorem reports_pure (a : α) (g : Guest) : (pure a : Traced α).Reports vm g g :=
  reports_of_silent rfl g

theorem Reports.bind (hx : x.Reports vm g g₁) (hf : (f x.val).Reports vm g₁ g') :
    (x >>= f).Reports vm g g' := by
  rw [Reports, strays_bind, hf, hx, Bool.or_assoc]

theorem Reports.foldlM {step : σ → ι → Traced σ} (guest : σ → Guest) (P : σ → Prop)
    (h : ∀ s i, P s → (step s i).Reports vm (guest s) (guest (step s i).val) ∧ P (step s i).val)
    (is : List ι) {s : σ} (hs : P s) :
    (is.foldlM step s).Reports vm (guest s) (guest (is.foldlM step s).val) := by
  induction is generalizing s with
  | nil => exact reports_pure s _
  | cons i is ih =>
    obtain ⟨hi, hs'⟩ := h s i hs
    rw [List.foldlM_cons]
    exact hi.bind (ih hs')

end Traced

variable {vm : VmId}

/-! ## The guest -/

namespace Guest

theorem faulted_interrupt (g : Guest) (vector : UInt8) :
    (g.interrupt vector).2.faulted = (g.faulted || strayed (g.interrupt vector).1) := by
  unfold interrupt
  split
  · split <;> simp [strayed, InjectError.isStray]
  · simp [strayed, InjectError.isStray]

theorem faulted_iret (g : Guest) : g.iret.2.faulted = (g.faulted || !g.iret.1.isOk) := by
  unfold iret
  split <;> simp [Except.isOk, Except.toBool]

theorem faulted_perform (g : Guest) (a : Action) :
    (g.perform a).2.faulted = (g.faulted || (g.perform a).1.isStray) := by
  cases a with
  | interrupt vector =>
    have h := g.faulted_interrupt vector
    unfold perform
    dsimp only
    split
    next heq => rw [heq] at h; exact h
    next heq => rw [heq] at h; exact h
  | iret =>
    have h := g.faulted_iret
    unfold perform
    dsimp only
    split
    next heq => rw [heq] at h; exact h
    next heq => rw [heq] at h; exact h
  | memory | setRegisters | view | vif | setVif | isResumable | setResumable | faulted =>
    exact (Bool.or_false _).symm

/-! What is stray about them is an address. -/

theorem isOk_pushFrame (g : Guest) (vector : UInt8) :
    (g.pushFrame vector).1.isOk = true ↔ ∀ a ∈ g.entryAddresses vector, g.memory.Fits a 2 := by
  rw [isOk_pushFrame_iff, hasRoom_iff]
  simp [entryAddresses]

/-- **An interrupt is stray** exactly if it is admitted and an address does not fit: of the
vector's target, or on the stack. -/
theorem strayed_interrupt_iff (g : Guest) (vector : UInt8) :
    strayed (g.interrupt vector).1 = true ↔
      g.isResumable = true ∧ ∃ a ∈ g.entryAddresses vector, ¬g.memory.Fits a 2 := by
  have hpush : (g.pushFrame vector).1.isOk = false ↔
      ∃ a ∈ g.entryAddresses vector, ¬g.memory.Fits a 2 := by
    rw [← Bool.not_eq_true, g.isOk_pushFrame vector]
    simp
  rw [← hpush, interrupt]
  by_cases hresumable : g.isResumable = true
  · rw [if_pos hresumable]
    rcases g.pushFrame vector with ⟨_ | _, memory⟩ <;>
      simp [hresumable, strayed, InjectError.isStray, Except.isOk, Except.toBool]
  · simp [hresumable, strayed, InjectError.isStray]

/-- **A return is stray** exactly if an address on the stack does not fit. -/
theorem isOk_iret_iff (g : Guest) :
    g.iret.1.isOk = true ↔ ∀ a ∈ g.returnAddresses, g.memory.Fits a 2 := by
  have hpop : g.popFrame.isOk = true ↔ g.memory.Fits (g.frame.popAddress 0) 2 ∧
      g.memory.Fits (g.frame.popAddress 2) 2 ∧ g.memory.Fits (g.frame.popAddress 4) 2 ∧ True :=
    Memory.isOk_readWord_bind _ _ fun _ => Memory.isOk_readWord_bind _ _ fun _ =>
      Memory.isOk_readWord_bind _ _ fun _ => iff_of_true rfl trivial
  simp only [returnAddresses, List.forall_mem_cons, List.not_mem_nil, false_imp_iff, implies_true]
  rw [← hpop, iret]
  cases g.popFrame <;> rfl

theorem faulted_run (g : Guest) (as : List Action) :
    (g.run as).val.2.faulted = (g.faulted || (g.run as).val.1.any Reply.isStray) := by
  induction as generalizing g with
  | nil => exact (Bool.or_false _).symm
  | cons a as ih =>
    simp only [run, val_bind, val_pure, List.any_cons, val_act]
    rw [ih, faulted_perform, Bool.or_assoc]

end Guest

/-! ## The interrupt controller and the bus -/

namespace InterruptController

variable (c : InterruptController) (g : Guest)

/-- An offer that goes outside memory is told, and answered so. -/
theorem strays_deliver : (c.deliver vm g).strays vm = strayed (c.deliver vm g).val.1 := by
  unfold deliver
  split
  · rfl
  · simp only [strays_bind, (Guest.notes_inject _ _).not_strays, Bool.false_or, val_bind]
    split <;> simp [Note.vm?, Note.isStray, strayed]

theorem faulted_deliver :
    (c.deliver vm g).val.2.2.faulted = (g.faulted || strayed (c.deliver vm g).val.1) := by
  unfold deliver
  split
  · exact (Bool.or_false _).symm
  next line _ =>
    have h := g.faulted_interrupt (c.vector line)
    simp only [val_bind, Guest.val_inject]
    split
    next heq => rw [heq] at h; exact h
    next heq => rw [heq] at h; exact h

theorem reports_deliver : (c.deliver vm g).Reports vm g (c.deliver vm g).val.2.2 := by
  rw [Reports, strays_deliver]
  exact c.faulted_deliver g

theorem strays_raise (number : UInt8) :
    (c.raise vm number g).strays vm = strayed (c.raise vm number g).val.1 := by
  unfold raise
  split
  · simp [Note.isStray, strayed]
  · split
    · simp [Note.isStray, strayed]
    · simp [strays_deliver, strayed_map]

theorem faulted_raise (number : UInt8) :
    (c.raise vm number g).val.2.2.faulted = (g.faulted || strayed (c.raise vm number g).val.1) := by
  unfold raise
  split
  · exact (Bool.or_false _).symm
  · split
    · exact (Bool.or_false _).symm
    · simp only [val_bind, val_pure, strayed_map]
      exact faulted_deliver _ g

theorem reports_raise (number : UInt8) :
    (c.raise vm number g).Reports vm g (c.raise vm number g).val.2.2 := by
  rw [Reports, strays_raise]
  exact c.faulted_raise g number

theorem reports_writeAndDeliver (port : UInt16) (value : UInt8) :
    (c.writeAndDeliver vm port value g).Reports vm g
      (c.writeAndDeliver vm port value g).val.2 := by
  rw [val_writeAndDeliver]
  refine (reports_of_silent (c.notes_writePort port value).not_strays g).bind
    ((reports_deliver _ g).bind (.bind (reports_of_silent ?_ _) (reports_pure _ _)))
  split
  · simp [Note.isStray]
  · rfl

end InterruptController

namespace Bus

theorem strays_raise (b : Bus) (line : UInt8) :
    (b.raise line).strays b.vm = strayed (b.raise line).val.1 := by
  unfold raise
  split
  · simp [Note.isStray, strayed]
  · simp [InterruptController.strays_raise]

theorem faulted_raise (b : Bus) (line : UInt8) :
    (b.raise line).val.2.guest.faulted =
      (b.guest.faulted || strayed (b.raise line).val.1) := by
  unfold raise
  split
  · exact (Bool.or_false _).symm
  · exact InterruptController.faulted_raise _ _ line

theorem reports_raise (b : Bus) (line : UInt8) :
    (b.raise line).Reports b.vm b.guest (b.raise line).val.2.guest := by
  rw [Reports, strays_raise]
  exact b.faulted_raise line

theorem faulted_act (b : Bus) (a : Device.Action) :
    (b.act a).val.2.guest.faulted = (b.guest.faulted || (b.act a).val.1.isStray) := by
  cases a with
  | raise line => exact b.faulted_raise line
  | guest a =>
    simp only [act, val_bind, val_pure, Guest.val_act]
    exact b.guest.faulted_perform a

/-- What a device does is told by its replies, whether or not the controller tells of it too. -/
theorem strays_run (b : Bus) (as : List Device.Action) :
    (b.run as).strays b.vm = true → (b.run as).val.1.any Device.Reply.isStray = true := by
  induction as generalizing b with
  | nil => exact fun h => h
  | cons a as ih =>
    obtain ⟨-, hvm⟩ := b.notes_act a
    have hrest := ih (b.act a).val.2
    have hact : (b.act a).strays b.vm = true → (b.act a).val.1.isStray = true := by
      cases a with
      | raise line => simp [act, strays_raise, Device.Reply.isStray]
      | guest a =>
        simp [act, (b.guest.notes_act a).not_strays]
    rw [hvm] at hrest
    simp only [run, strays_bind, strays_pure, val_bind, val_pure, Bool.or_false, Bool.or_eq_true,
      List.any_cons]
    exact Or.imp hact hrest

theorem faulted_run (b : Bus) (as : List Device.Action) :
    (b.run as).val.2.guest.faulted =
      (b.guest.faulted || (b.run as).val.1.any Device.Reply.isStray) := by
  induction as generalizing b with
  | nil => exact (Bool.or_false _).symm
  | cons a as ih =>
    simp only [run, val_bind, val_pure, List.any_cons]
    rw [ih, faulted_act, Bool.or_assoc]

end Bus

/-! ## Devices -/

namespace IntervalTimer

theorem reports_raiseTimerLine (b : Bus) :
    (raiseTimerLine b).Reports b.vm b.guest (raiseTimerLine b).val.guest := by
  have hval : (raiseTimerLine b).val = (b.raise timerLine).val.2 := by
    unfold raiseTimerLine
    simp only [val_bind]
    split <;> rfl
  rw [hval]
  refine (b.reports_raise timerLine).bind (.bind (reports_of_silent ?_ _) (reports_pure _ _))
  split
  · simp [Note.isStray]
  · rfl

theorem strays_notify (i : Fin 3) (watcher : Option String) :
    (notify vm i watcher).strays vm = false := by
  cases watcher with
  | none => rfl
  | some watcher => simp [notify, Note.isStray]

theorem reports_signal (i : Fin 3) (watcher : Option String) (b : Bus) :
    (signal i watcher b).Reports b.vm b.guest (signal i watcher b).val.guest := by
  obtain ⟨-, hvm⟩ := notes_raiseTimerLine b
  unfold signal
  dsimp only
  split
  · refine (reports_raiseTimerLine b).bind (.bind (reports_of_silent ?_ _) (reports_pure _ _))
    rw [hvm]
    exact strays_notify i watcher
  · exact (reports_pure b _).bind
      (.bind (reports_of_silent (strays_notify i watcher) _) (reports_pure _ _))

theorem reports_signalAll (i : Fin 3) (watcher : Option String) (n : Nat) (b : Bus) :
    (signalAll i watcher n b).Reports b.vm b.guest (signalAll i watcher n b).val.guest := by
  have htimes : ∀ (n : Nat) (x : Traced Bus), x.val.vm = b.vm →
      x.Reports b.vm b.guest x.val.guest →
      (Traced.times (signal i watcher) n x).Reports b.vm b.guest
        (Traced.times (signal i watcher) n x).val.guest := by
    intro n
    induction n with
    | zero => exact fun x _ hx => hx
    | succ n ih =>
      intro x hvm hx
      obtain ⟨-, hvm'⟩ := notes_signal i watcher x.val
      have hsignal := reports_signal i watcher x.val
      rw [hvm] at hsignal
      exact ih (x >>= signal i watcher) (hvm'.trans hvm) (hx.bind hsignal)
  unfold signalAll
  split
  · exact htimes n (pure b) rfl (reports_pure b _)
  · exact reports_pure b _

theorem reports_expireChannel (s : IntervalTimer × Bus) (i : Fin 3) :
    (expireChannel s i).Reports s.2.vm s.2.guest (expireChannel s i).val.2.guest :=
  (reports_signalAll i _ _ s.2).bind (reports_pure _ _)

theorem reports_runExpiry (t : IntervalTimer) (b : Bus) :
    (t.runExpiry b).Reports b.vm b.guest (t.runExpiry b).val.2.guest := by
  refine Reports.foldlM (fun s : IntervalTimer × Bus => s.2.guest) (fun s => s.2.vm = b.vm) ?_ _ rfl
  intro s i hvm
  obtain ⟨-, hvm'⟩ := notes_expireChannel s i
  rw [← hvm]
  exact ⟨reports_expireChannel s i, hvm'⟩

theorem reports_readPort (t : IntervalTimer) (port : UInt16) (b : Bus) :
    (t.readPort port b).Reports b.vm b.guest (t.readPort port b).val.2.2.guest := by
  unfold readPort
  split
  · exact reports_pure _ _
  · exact (t.reports_runExpiry b).bind (reports_pure _ _)

end IntervalTimer

namespace Device

/-- Calls that report what they do to the guest. -/
def Reporting {α : Type} (f : Device → Bus → Traced (α × Device × Bus)) : Prop :=
  ∀ d b, (f d b).Reports b.vm b.guest (f d b).val.2.2.guest

theorem reports_access (d : ExternalDevice) (a : Access) (b : Bus) :
    (d.access a b).Reports b.vm b.guest (d.access a b).val.2.2.guest := by
  let response := d.respond (a :: d.history)
  obtain ⟨-, hvm⟩ := b.notes_run response.actions
  have hfaulted := b.faulted_run response.actions
  have hstrays := b.strays_run response.actions
  have hguest : (d.access a b).val.2.2 = (b.run response.actions).val.2 := rfl
  have hnotes : (d.access a b).strays b.vm =
      ((b.run response.actions).strays b.vm ||
        (b.run response.actions).val.1.any Device.Reply.isStray) := by
    simp [ExternalDevice.access, response, hvm, Event.vm, Note.isStray]
  rw [Reports, hguest, hfaulted, hnotes]
  cases hs : (b.run response.actions).strays b.vm with
  | false => rfl
  | true => rw [hstrays hs]; rfl

theorem reporting_read (port : UInt16) : Reporting (Device.read port) := by
  intro d b
  cases d with
  | pit t => exact (t.reports_readPort port b).bind (reports_pure _ _)
  | external d => exact (reports_access d (.read port) b).bind (reports_pure _ _)
  | pic | dma | cmos => exact reports_pure _ _

theorem reporting_write (port : UInt16) (value : UInt8) : Reporting (Device.write port value) := by
  intro d b
  cases d with
  | pic c => exact (c.reports_writeAndDeliver b.guest port value).bind (reports_pure _ _)
  | pit t =>
    refine (reports_of_silent (t.notes_writePort port value b).not_strays _).bind ?_
    exact reports_pure _ _
  | dma d =>
    have hguest : (Device.write port value (.dma d) b).val.2.2 = b := by
      unfold write
      dsimp only
      split <;> rfl
    rw [hguest]
    refine reports_of_silent ?_ _
    unfold write
    dsimp only
    split <;> simp [Note.isStray]
  | cmos r => exact reports_pure _ _
  | external d => exact (reports_access d (.write port value) b).bind (reports_pure _ _)

theorem reporting_tick : Reporting Device.tick := by
  intro d b
  cases d with
  | pit t => exact (t.reports_runExpiry b).bind (reports_pure _ _)
  | external d => exact (reports_access d (.tick b.clock.now) b).bind (reports_pure _ _)
  | pic | dma | cmos => exact reports_pure _ _

end Device

/-! ## The session -/

namespace Vm

variable {α : Type} (v : Vm)

theorem reports_call (id : DeviceId) (clock : Clock) {f : Device → Bus → Traced (α × Device × Bus)}
    (hf : Device.Reporting f) :
    (v.call id clock f).Reports v.id v.guest (v.call id clock f).val.2.guest := by
  unfold call
  split
  · exact reports_pure _ _
  next d _ =>
    have hguest := (v.setDevice id none).guest_settle
      (f d ((v.setDevice id none).bus clock)).val.2.2
    have hcall := hf d ((v.setDevice id none).bus clock)
    rw [← hguest] at hcall
    exact hcall.bind (reports_pure _ _)

theorem reports_readByte (clock : Clock) (port : UInt16) :
    (v.readByte clock port).Reports v.id v.guest (v.readByte clock port).val.2.guest := by
  unfold readByte
  split
  · exact reports_pure _ _
  · exact (v.reports_call _ clock (Device.reporting_read port)).bind (reports_pure _ _)

theorem reports_writeByte (clock : Clock) (port : UInt16) (value : UInt8) :
    (v.writeByte clock port value).Reports v.id v.guest
      (v.writeByte clock port value).val.2.guest := by
  unfold writeByte
  split
  · exact reports_pure _ _
  · exact (v.reports_call _ clock (Device.reporting_write port value)).bind (reports_pure _ _)

theorem reports_readBytes (clock : Clock) (port : UInt16) (width : Nat) :
    (v.readBytes clock port width).Reports v.id v.guest
      (v.readBytes clock port width).val.2.guest := by
  induction width generalizing v port with
  | zero => exact reports_pure _ _
  | succ width ih =>
    have hrest := ih (v.readByte clock port).val.2 (port + 1)
    rw [(v.keeps_readByte clock port).id] at hrest
    exact (v.reports_readByte clock port).bind (hrest.bind (reports_pure _ _))

theorem reports_writeBytes (clock : Clock) (port : UInt16) (values : List UInt8) :
    (v.writeBytes clock port values).Reports v.id v.guest
      (v.writeBytes clock port values).val.2.guest := by
  induction values generalizing v port with
  | nil => exact reports_pure _ _
  | cons value values ih =>
    have hrest := ih (v.writeByte clock port value).val.2 (port + 1)
    rw [(v.keeps_writeByte clock port value).id] at hrest
    exact (v.reports_writeByte clock port value).bind (hrest.bind (reports_pure _ _))

theorem reports_tickDevice (clock : Clock) (id : DeviceId) :
    (tickDevice clock v id).Reports v.id v.guest (tickDevice clock v id).val.guest :=
  (v.reports_call id clock Device.reporting_tick).bind (reports_pure _ _)

theorem reports_tick (clock : Clock) :
    (v.tick clock).Reports v.id v.guest (v.tick clock).val.guest := by
  refine Reports.foldlM Vm.guest (fun v' => v'.id = v.id) ?_ v.deviceIds rfl
  intro v' id hid
  rw [← hid]
  exact ⟨v'.reports_tickDevice clock id, (v'.keeps_tickDevice clock id).id⟩

theorem reports_syncTimer (clock : Clock) :
    (v.syncTimer clock).Reports v.id v.guest (v.syncTimer clock).val.guest := by
  unfold syncTimer
  split
  · exact reports_pure _ _
  · exact v.reports_tickDevice clock _

theorem reports_raise (line : UInt8) :
    (v.raise line).Reports v.id v.guest (v.raise line).val.2.guest := by
  unfold raise
  split
  · exact reports_pure _ _
  · exact (InterruptController.reports_raise _ _ line).bind (reports_pure _ _)

theorem reports_deliver : v.deliver.Reports v.id v.guest v.deliver.val.2.guest := by
  unfold deliver
  split
  · exact reports_pure _ _
  · exact (InterruptController.reports_deliver _ _).bind (reports_pure _ _)

end Vm

theorem ServiceTable.reports_dispatch (t : ServiceTable) (number : UInt8) (g : Guest) :
    (t.dispatch vm number g).Reports vm g (t.dispatch vm number g).val.2.2 := by
  unfold dispatch
  split
  · exact reports_pure _ _
  next s _ =>
    have hrun := g.faulted_run (s.actions (s.calls + 1))
    simp only [Reports, strays_bind, (g.notes_run _).not_strays, val_bind, val_pure, hrun]
    simp [Event.vm, Note.isStray]

end RealModeMonitor
