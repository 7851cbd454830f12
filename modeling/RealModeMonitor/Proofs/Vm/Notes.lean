import RealModeMonitor.Proofs.Vm.Frame

/-!
# What a session notes is about itself

While a session works, its devices and handlers leave notes. Every event among them was caused for
the session itself, every interrupt that is reported as failed was for its guest, and nothing among
them tells of a teardown or of a death: only the monitor lets sessions die (`Note.AtWork`). The
notes of a teardown are about the session that is torn down (`Note.OfVm`).

`Traced.Only p` says that all notes of a computation satisfy `p`. It goes through every
composition, so there is one short lemma for each function, from the guest up to the calls of a
whole session.
-/

namespace RealModeMonitor

/-! ## Notes of a computation -/

namespace Traced

variable {α β σ ι : Type} {p q : Note → Prop} {x : Traced α} {f : α → Traced β}

def Only (p : Note → Prop) (x : Traced α) : Prop := ∀ n ∈ x.notes, p n

theorem Only.mono (hx : x.Only p) (h : ∀ n, p n → q n) : x.Only q := fun n hn => h n (hx n hn)

theorem only_pure (a : α) : (pure a : Traced α).Only p := by simp [Only]

theorem Only.bind (hx : x.Only p) (hf : (f x.val).Only p) : (x >>= f).Only p := by
  intro n hn
  rw [notes_bind, Array.mem_append] at hn
  exact hn.elim (hx n) (hf n)

/-- A computation that some note may come before. -/
theorem Only.after {c : Prop} [Decidable c] {y : Traced β} {g : β → Traced α} {z : Traced α}
    (hy : y.Only p) (hg : (g y.val).Only p) (hz : z.Only p) :
    (if c then y >>= g else z).Only p := by
  split
  · exact hy.bind hg
  · exact hz

theorem Only.foldlM {step : σ → ι → Traced σ} (P : σ → Prop) (is : List ι) {s : σ} (hs : P s)
    (h : ∀ s i, P s → (step s i).Only p ∧ P (step s i).val) :
    (is.foldlM step s).Only p ∧ P (is.foldlM step s).val := by
  induction is generalizing s with
  | nil => exact ⟨only_pure s, hs⟩
  | cons i is ih =>
    obtain ⟨hi, hs'⟩ := h s i hs
    obtain ⟨his, hs''⟩ := ih hs'
    rw [List.foldlM_cons]
    exact ⟨hi.bind his, hs''⟩

theorem Only.times {step : σ → Traced σ} (P : σ → Prop)
    (h : ∀ s, P s → (step s).Only p ∧ P (step s).val) (n : Nat) {x : Traced σ} (hx : x.Only p)
    (hs : P x.val) : (Traced.times step n x).Only p ∧ P (Traced.times step n x).val := by
  induction n generalizing x with
  | zero => exact ⟨hx, hs⟩
  | succ n ih =>
    obtain ⟨hstep, hs'⟩ := h x.val hs
    exact ih (hx.bind hstep) hs'

end Traced

/-! ## Kinds of notes -/

/-- Whether a diagnostic tells of a session's death. -/
def Diagnostic.isFate : Diagnostic → Bool
  | guestFaulted _ | vmKilled _ => true
  | _ => false

/-- Whether a diagnostic tells neither of a death or a teardown nor of an interrupt that failed. -/
def Diagnostic.isRemark : Diagnostic → Bool
  | guestFaulted _ | vmKilled _ | deviceTornDown .. | killHandlerRuns .. | deliveryFailed .. =>
    false
  | _ => true

namespace Note

variable {vm : VmId} {d : Diagnostic} {e : Event}

/-- The session that a note concerns: something was called for it, an interrupt of its guest
failed, or a step of its teardown was taken. -/
def vm? : Note → Option VmId
  | .event e => some e.vm
  | .diagnostic (.deliveryFailed vm ..) => some vm
  | .diagnostic (.deviceTornDown vm _) => some vm
  | .diagnostic (.killHandlerRuns vm _) => some vm
  | .diagnostic _ => none

/-- Whether a note belongs to a teardown. -/
def isRite : Note → Bool
  | .event (.device _ _ .teardown _) => true
  | .event (.killHandler ..) => true
  | .diagnostic (.deviceTornDown ..) => true
  | .diagnostic (.killHandlerRuns ..) => true
  | _ => false

/-- A note that the working or the teardown of session `vm` may leave. -/
structure OfVm (vm : VmId) (n : Note) : Prop where
  vm : ∀ b, n.vm? = some b → b = vm
  fate : ∀ d, n = .diagnostic d → d.isFate = false

/-- A note that the working of session `vm` may leave. -/
structure AtWork (vm : VmId) (n : Note) : Prop extends n.OfVm vm where
  rite : n.isRite = false

theorem ofVm_event (h : e.vm = vm) : (Note.event e).OfVm vm where
  vm _ hb := (Option.some.inj hb).symm.trans h
  fate := nofun

theorem atWork_event (h : e.vm = vm) (hrite : (Note.event e).isRite = false) :
    (Note.event e).AtWork vm :=
  { ofVm_event h with rite := hrite }

/-- A note that is a remark. -/
def IsRemark : Note → Prop
  | .diagnostic d => d.isRemark = true
  | .event _ => False

theorem IsRemark.vm? {n : Note} (h : n.IsRemark) : n.vm? = none := by
  cases n with
  | event e => cases h
  | diagnostic d => cases d <;> first | rfl | cases h

theorem IsRemark.atWork {n : Note} (h : n.IsRemark) : n.AtWork vm := by
  refine ⟨⟨fun b hb => ?_, fun d hd => ?_⟩, ?_⟩
  · rw [h.vm?] at hb
    cases hb
  · subst hd
    cases d <;> first | rfl | cases h
  · cases n with
    | event e => cases h
    | diagnostic d => cases d <;> first | rfl | cases h

theorem atWork_deliveryFailed (vm : VmId) (line : UInt8) (e : InjectError) :
    (Note.diagnostic (.deliveryFailed vm line e)).AtWork vm := by
  refine ⟨⟨fun b hb => (Option.some.inj hb).symm, fun d hd => ?_⟩, rfl⟩
  cases hd
  rfl

end Note

namespace Traced

variable {α β : Type} {vm b : VmId} {d : Diagnostic} {p : Note → Prop} {x : Traced α}

theorem only_tell_of (h : p (.diagnostic d)) : (tell d).Only p := by
  simpa [Only, tell] using h

theorem only_remark (h : d.isRemark = true) : (tell d).Only Note.IsRemark := only_tell_of h

theorem Only.atWork (hx : x.Only Note.IsRemark) : x.Only (Note.AtWork vm) :=
  hx.mono fun _ hn => hn.atWork

theorem only_tell (h : d.isRemark = true) : (tell d).Only (Note.AtWork vm) := (only_remark h).atWork

theorem only_record {e : Event} (h : p (.event e)) : (record e).Only p := by
  simpa [Only, record] using h

theorem Only.ofVm (hx : x.Only (Note.AtWork vm)) : x.Only (Note.OfVm vm) :=
  hx.mono fun _ hn => hn.toOfVm

/-! ## What is heard of a session -/

/-- The notes that concern one session, in order. -/
def heard (b : VmId) (x : Traced α) : List Note := x.notes.toList.filter fun n => n.vm? = some b

@[simp] theorem heard_pure (a : α) : (pure a : Traced α).heard b = [] := rfl

@[simp] theorem heard_bind (x : Traced α) (f : α → Traced β) :
    (x >>= f).heard b = x.heard b ++ (f x.val).heard b := by
  simp [heard]

@[simp] theorem heard_map (f : α → β) (x : Traced α) : (f <$> x).heard b = x.heard b := by
  simp [heard]

theorem heard_tell (h : (Note.diagnostic d).vm? = none) :
    (tell d).heard b = [] := by
  simp [heard, tell, h]

/-- Nothing is heard of the other sessions. -/
theorem Only.heard_other (hx : x.Only (Note.OfVm vm)) (hb : vm ≠ b) : x.heard b = [] := by
  rw [heard, List.filter_eq_nil_iff]
  intro n hn hvm
  exact hb ((hx n (Array.mem_toList_iff.1 hn)).vm b (of_decide_eq_true hvm)).symm

/-- Remarks are about nobody. -/
theorem Only.not_heard (hx : x.Only Note.IsRemark) : x.heard b = [] := by
  rw [heard, List.filter_eq_nil_iff]
  intro n hn
  simp [(hx n (Array.mem_toList_iff.1 hn)).vm?]

end Traced

open Traced

variable {vm : VmId}

/-! ## The guest -/

namespace Guest

theorem notes_inject (g : Guest) (vector : UInt8) : (g.inject vector).Only Note.IsRemark :=
  .after (only_remark rfl) (only_pure _) (only_pure _)

theorem notes_act (g : Guest) (a : Action) : (g.act a).Only Note.IsRemark := by
  cases a with
  | interrupt vector => exact .bind (g.notes_inject vector) (only_pure _)
  | memory | setRegisters | view | vif | setVif | isResumable | setResumable | faulted | iret =>
    exact only_pure _

theorem notes_run (g : Guest) (as : List Action) : (g.run as).Only Note.IsRemark := by
  induction as generalizing g with
  | nil => exact only_pure _
  | cons a as ih => exact .bind (g.notes_act a) (.bind (ih _) (only_pure _))

end Guest

/-! ## The interrupt controller and the bus -/

namespace InterruptController

variable (c : InterruptController) (g : Guest)

theorem notes_deliver : (c.deliver vm g).Only (Note.AtWork vm) := by
  unfold deliver
  split
  · exact only_pure _
  · refine .bind (g.notes_inject _).atWork ?_
    split
    · exact .bind (only_tell_of (Note.atWork_deliveryFailed vm _ _)) (only_pure _)
    · exact .bind (only_tell rfl) (only_pure _)

theorem notes_raise (number : UInt8) : (c.raise vm number g).Only (Note.AtWork vm) := by
  unfold raise
  split
  · exact .bind (only_tell rfl) (only_pure _)
  · split
    · exact .bind (only_tell rfl) (only_pure _)
    · exact .bind (notes_deliver _ g) (only_pure _)

theorem notes_writePort (port : UInt16) (value : UInt8) :
    (c.writePort vm port value).Only Note.IsRemark := by
  unfold writePort
  split
  · exact only_pure _
  · dsimp only
    split
    · exact .bind (only_remark rfl) (.after (only_remark rfl) (only_pure _) (only_pure _))
    · exact .bind (only_remark rfl) (.after (only_remark rfl) (only_pure _) (only_pure _))
    · exact .after (only_remark rfl) (only_pure _) (only_pure _)

theorem notes_writeAndDeliver (port : UInt16) (value : UInt8) :
    (c.writeAndDeliver vm port value g).Only (Note.AtWork vm) := by
  refine .bind (c.notes_writePort port value).atWork ?_
  refine .bind (notes_deliver _ g) (.bind ?_ (only_pure _))
  split
  · exact only_tell rfl
  · exact only_pure _

end InterruptController

namespace Bus

theorem vm_raise (b : Bus) (line : UInt8) : (b.raise line).val.2.vm = b.vm := by
  unfold raise
  cases b.controller <;> rfl

theorem notes_raise (b : Bus) (line : UInt8) : (b.raise line).Only (Note.AtWork b.vm) := by
  unfold raise
  split
  · exact .bind (only_tell rfl) (only_pure _)
  · exact .bind (InterruptController.notes_raise _ _ line) (only_pure _)

theorem notes_act (b : Bus) (a : Device.Action) :
    (b.act a).Only (Note.AtWork b.vm) ∧ (b.act a).val.2.vm = b.vm := by
  cases a with
  | raise line => exact ⟨.bind (b.notes_raise line) (only_pure _), b.vm_raise line⟩
  | guest a => exact ⟨.bind (b.guest.notes_act a).atWork (only_pure _), rfl⟩

theorem notes_run (b : Bus) (as : List Device.Action) :
    (b.run as).Only (Note.AtWork b.vm) ∧ (b.run as).val.2.vm = b.vm := by
  induction as generalizing b with
  | nil => exact ⟨only_pure _, rfl⟩
  | cons a as ih =>
    obtain ⟨ha, hvm⟩ := b.notes_act a
    obtain ⟨has, hvm'⟩ := ih (b.act a).val.2
    rw [hvm] at has hvm'
    exact ⟨.bind ha (.bind has (only_pure _)), hvm'⟩

end Bus

/-! ## Devices -/

namespace IntervalTimer

theorem notes_raiseTimerLine (b : Bus) :
    (raiseTimerLine b).Only (Note.AtWork b.vm) ∧ (raiseTimerLine b).val.vm = b.vm := by
  constructor
  · refine .bind (b.notes_raise timerLine) (.bind ?_ (only_pure _))
    split
    · exact only_tell rfl
    · exact only_pure _
  · unfold raiseTimerLine
    simp only [val_bind]
    split <;> exact b.vm_raise timerLine

theorem notes_notify (i : Fin 3) (watcher : Option String) :
    (notify vm i watcher).Only (Note.AtWork vm) := by
  cases watcher with
  | none => exact only_pure _
  | some watcher => exact only_record (Note.atWork_event rfl rfl)

theorem notes_signal (i : Fin 3) (watcher : Option String) (b : Bus) :
    (signal i watcher b).Only (Note.AtWork b.vm) ∧ (signal i watcher b).val.vm = b.vm := by
  unfold signal
  dsimp only
  split
  · obtain ⟨hnotes, hvm⟩ := notes_raiseTimerLine b
    refine ⟨.bind hnotes (.bind ?_ (only_pure _)), hvm⟩
    rw [hvm]
    exact notes_notify i watcher
  · exact ⟨.bind (only_pure _) (.bind (notes_notify i watcher) (only_pure _)), rfl⟩

theorem notes_signalAll (i : Fin 3) (watcher : Option String) (n : Nat) (b : Bus) :
    (signalAll i watcher n b).Only (Note.AtWork b.vm) ∧
      (signalAll i watcher n b).val.vm = b.vm := by
  unfold signalAll
  split
  · refine Only.times (fun b' => b'.vm = b.vm) ?_ n (only_pure b) rfl
    intro b' hvm
    rw [← hvm]
    exact notes_signal i watcher b'
  · exact ⟨only_pure b, rfl⟩

theorem notes_expireChannel (s : IntervalTimer × Bus) (i : Fin 3) :
    (expireChannel s i).Only (Note.AtWork s.2.vm) ∧ (expireChannel s i).val.2.vm = s.2.vm := by
  obtain ⟨hnotes, hvm⟩ := notes_signalAll i (((s.1.channel i).expire s.2.clock.now).2.watcher)
    ((s.1.channel i).expire s.2.clock.now).1 s.2
  exact ⟨.bind hnotes (only_pure _), hvm⟩

theorem notes_runExpiry (t : IntervalTimer) (b : Bus) :
    (t.runExpiry b).Only (Note.AtWork b.vm) ∧ (t.runExpiry b).val.2.vm = b.vm := by
  refine Only.foldlM (fun s : IntervalTimer × Bus => s.2.vm = b.vm) _ rfl ?_
  intro s i hvm
  rw [← hvm]
  exact notes_expireChannel s i

theorem notes_readPort (t : IntervalTimer) (port : UInt16) (b : Bus) :
    (t.readPort port b).Only (Note.AtWork b.vm) := by
  unfold readPort
  split
  · exact only_pure _
  · exact .bind (t.notes_runExpiry b).1 (only_pure _)

theorem notes_writeControl (t : IntervalTimer) (b : Bus) (value : UInt8) :
    (t.writeControl b value).Only Note.IsRemark := by
  unfold writeControl
  split
  · exact only_pure _
  · refine .bind ?_ (.after (only_remark rfl) (only_pure _) (only_pure _))
    unfold controlChannel
    split
    · exact only_pure _
    · exact .bind (only_remark rfl) (only_pure _)

theorem notes_writePort (t : IntervalTimer) (port : UInt16) (value : UInt8) (b : Bus) :
    (t.writePort port value b).Only Note.IsRemark := by
  unfold writePort
  split
  · exact t.notes_writeControl b value
  · split
    · exact only_pure _
    · exact .after (only_remark rfl) (only_pure _) (only_pure _)

end IntervalTimer

namespace Device

theorem notes_access (d : ExternalDevice) (a : Access) (ha : a ≠ .teardown) (b : Bus) :
    (d.access a b).Only (Note.AtWork b.vm) := by
  obtain ⟨hnotes, hvm⟩ := b.notes_run (d.respond (a :: d.history)).actions
  refine .bind hnotes (.bind (only_record (Note.atWork_event hvm ?_)) (only_pure _))
  cases a with
  | teardown => exact absurd rfl ha
  | read | write | tick => rfl

theorem notes_read (port : UInt16) (d : Device) (b : Bus) :
    (d.read port b).Only (Note.AtWork b.vm) := by
  cases d with
  | pit t => exact .bind (t.notes_readPort port b) (only_pure _)
  | external d => exact .bind (notes_access d (.read port) nofun b) (only_pure _)
  | pic | dma | cmos => exact only_pure _

theorem notes_write (port : UInt16) (value : UInt8) (d : Device) (b : Bus) :
    (d.write port value b).Only (Note.AtWork b.vm) := by
  cases d with
  | pic c => exact .bind (c.notes_writeAndDeliver b.guest port value) (only_pure _)
  | pit t => exact .bind (t.notes_writePort port value b).atWork (only_pure _)
  | dma d =>
    refine .bind ?_ (only_pure _)
    split
    · exact only_tell rfl
    · exact only_pure _
  | cmos r => exact only_pure _
  | external d => exact .bind (notes_access d (.write port value) nofun b) (only_pure _)

theorem notes_tick (d : Device) (b : Bus) : (d.tick b).Only (Note.AtWork b.vm) := by
  cases d with
  | pit t => exact .bind (t.notes_runExpiry b).1 (only_pure _)
  | external d => exact .bind (notes_access d (.tick _) nofun b) (only_pure _)
  | pic | dma | cmos => exact only_pure _

theorem notes_teardown (d : Device) (vm : VmId) : (d.teardown vm).Only (Note.OfVm vm) := by
  cases d with
  | external d => exact only_record (Note.ofVm_event rfl)
  | pic | pit | dma | cmos => exact only_pure _

end Device

/-! ## The session -/

namespace Vm

variable {α : Type} (v : Vm)

theorem notes_call (id : DeviceId) (clock : Clock) {f : Device → Bus → Traced (α × Device × Bus)}
    (hf : ∀ d b, (f d b).Only (Note.AtWork b.vm)) :
    (v.call id clock f).Only (Note.AtWork v.id) := by
  unfold call
  split
  · exact only_pure _
  · exact .bind (hf _ _) (only_pure _)

theorem notes_readByte (clock : Clock) (port : UInt16) :
    (v.readByte clock port).Only (Note.AtWork v.id) := by
  unfold readByte
  split
  · exact only_pure _
  · exact .bind (v.notes_call _ clock (Device.notes_read port)) (only_pure _)

theorem notes_writeByte (clock : Clock) (port : UInt16) (value : UInt8) :
    (v.writeByte clock port value).Only (Note.AtWork v.id) := by
  unfold writeByte
  split
  · exact only_pure _
  · exact .bind (v.notes_call _ clock (Device.notes_write port value)) (only_pure _)

theorem notes_readBytes (clock : Clock) (port : UInt16) (width : Nat) :
    (v.readBytes clock port width).Only (Note.AtWork v.id) := by
  induction width generalizing v port with
  | zero => exact only_pure _
  | succ width ih =>
    have hrest := ih (v.readByte clock port).val.2 (port + 1)
    rw [(v.keeps_readByte clock port).id] at hrest
    exact .bind (v.notes_readByte clock port) (.bind hrest (only_pure _))

theorem notes_writeBytes (clock : Clock) (port : UInt16) (values : List UInt8) :
    (v.writeBytes clock port values).Only (Note.AtWork v.id) := by
  induction values generalizing v port with
  | nil => exact only_pure _
  | cons value values ih =>
    have hrest := ih (v.writeByte clock port value).val.2 (port + 1)
    rw [(v.keeps_writeByte clock port value).id] at hrest
    exact .bind (v.notes_writeByte clock port value) (.bind hrest (only_pure _))

theorem notes_tickDevice (clock : Clock) (id : DeviceId) :
    (tickDevice clock v id).Only (Note.AtWork v.id) :=
  .bind (v.notes_call id clock Device.notes_tick) (only_pure _)

theorem notes_tick (clock : Clock) : (v.tick clock).Only (Note.AtWork v.id) := by
  refine (Only.foldlM (fun v' : Vm => v'.id = v.id) v.deviceIds rfl ?_).1
  intro v' id hid
  refine ⟨?_, (v'.keeps_tickDevice clock id).id.trans hid⟩
  rw [← hid]
  exact v'.notes_tickDevice clock id

theorem notes_syncTimer (clock : Clock) : (v.syncTimer clock).Only (Note.AtWork v.id) := by
  unfold syncTimer
  split
  · exact only_pure _
  · exact v.notes_tickDevice clock _

theorem notes_raise (line : UInt8) : (v.raise line).Only (Note.AtWork v.id) := by
  unfold raise
  split
  · exact only_pure _
  · exact .bind (InterruptController.notes_raise _ _ line) (only_pure _)

theorem notes_deliver : v.deliver.Only (Note.AtWork v.id) := by
  unfold deliver
  split
  · exact only_pure _
  · exact .bind (InterruptController.notes_deliver _ _) (only_pure _)

end Vm

theorem ServiceTable.notes_dispatch (t : ServiceTable) (number : UInt8) (g : Guest) :
    (t.dispatch vm number g).Only (Note.AtWork vm) := by
  unfold dispatch
  split
  · exact only_pure _
  · refine .bind (g.notes_run _).atWork ?_
    exact .bind (only_record (Note.atWork_event rfl rfl)) (only_pure _)

end RealModeMonitor
