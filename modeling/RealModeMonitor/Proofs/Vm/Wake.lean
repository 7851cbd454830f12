import RealModeMonitor.Proofs.InterruptController.Wake
import RealModeMonitor.Proofs.Vm.Frame

/-!
# Sessions in which nothing is deliverable

A session is **calm** if its controller is calm with its guest. Calls of built-in devices leave it
so, whichever device is called and for what: the controller ends every write to it with an offer,
the timer reaches the controller by raising a line on the bus, and no other device reaches it at
all. From calls this goes to accesses of several bytes and to ticks.

The sessions are **plain** ones: all devices are built in, and at most one is a controller.
-/

namespace RealModeMonitor

open Traced

/-! ## The bus -/

namespace Bus

variable {b b' b'' : Bus}

def Calm (b : Bus) : Prop := ∀ c, b.controller = some c → c.Calm b.guest

/-- A controller that is on the bus stays there, and stays calm. -/
structure KeepsCalm (b b' : Bus) : Prop where
  isSome : b'.controller.isSome = b.controller.isSome
  calm : b.Calm → b'.Calm

theorem KeepsCalm.refl (b : Bus) : b.KeepsCalm b := ⟨rfl, fun h => h⟩

theorem KeepsCalm.trans (h : b.KeepsCalm b') (h' : b'.KeepsCalm b'') : b.KeepsCalm b'' :=
  ⟨h'.isSome.trans h.isSome, fun hb => h'.calm (h.calm hb)⟩

theorem keepsCalm_raise (b : Bus) (line : UInt8) : b.KeepsCalm (b.raise line).val.2 := by
  unfold raise
  cases hc : b.controller with
  | none => exact .refl b
  | some c =>
    refine ⟨by simp [hc], fun hb c' hc' => ?_⟩
    obtain rfl : (c.raise b.vm line b.guest).val.2.1 = c' := Option.some.inj hc'
    exact (hb c hc).raise b.vm line

end Bus

/-! ## The timer -/

namespace IntervalTimer

open Bus

theorem keepsCalm_signal (i : Fin 3) (watcher : Option String) (b : Bus) :
    b.KeepsCalm (signal i watcher b).val := by
  have hraise := b.keepsCalm_raise timerLine
  unfold signal
  dsimp only
  split
  · rw [val_bind]
    unfold raiseTimerLine
    simp only [val_bind]
    split <;> exact hraise
  · exact .refl b

theorem keepsCalm_times (i : Fin 3) (watcher : Option String) (n : Nat) (x : Traced Bus) :
    x.val.KeepsCalm (Traced.times (signal i watcher) n x).val := by
  induction n generalizing x with
  | zero => exact .refl _
  | succ n ih => exact (keepsCalm_signal i watcher x.val).trans (ih (x >>= signal i watcher))

theorem keepsCalm_expireChannel (s : IntervalTimer × Bus) (i : Fin 3) :
    s.2.KeepsCalm (expireChannel s i).val.2 := by
  show s.2.KeepsCalm (signalAll i _ _ s.2).val
  unfold signalAll
  split
  · exact keepsCalm_times i _ _ (pure s.2)
  · exact .refl s.2

theorem keepsCalm_runExpiry (t : IntervalTimer) (b : Bus) : b.KeepsCalm (t.runExpiry b).val.2 := by
  have hfold : ∀ (is : List (Fin 3)) (s : IntervalTimer × Bus),
      s.2.KeepsCalm (is.foldlM expireChannel s).val.2 := by
    intro is
    induction is with
    | nil => exact fun s => .refl s.2
    | cons i is ih => exact fun s => (keepsCalm_expireChannel s i).trans (ih _)
  exact hfold (List.finRange 3) (t, b)

theorem keepsCalm_readPort (t : IntervalTimer) (port : UInt16) (b : Bus) :
    b.KeepsCalm (t.readPort port b).val.2.2 := by
  unfold readPort
  split
  · exact .refl b
  · exact t.keepsCalm_runExpiry b

end IntervalTimer

/-! ## Calls of a device -/

/-- Calls that leave calm what the device can reach: a controller itself, any other device what is
on the bus. -/
structure Device.Calms {α : Type} (f : Device → Bus → Traced (α × Device × Bus)) : Prop where
  blank : ∀ d b, (f d b).val.2.1.blank = d.blank
  controller : ∀ (c : InterruptController) (b : Bus), c.Calm b.guest →
    ∀ c', (f (.pic c) b).val.2.1 = .pic c' → c'.Calm (f (.pic c) b).val.2.2.guest
  other : ∀ (d : Device) (b : Bus), d.controller? = none → (∀ e, d ≠ .external e) →
    b.KeepsCalm (f d b).val.2.2

namespace Device

/-- Whether the device brings no requests along: a controller is as firmware leaves it. -/
def isFresh : Device → Bool
  | pic c => c = .initial
  | pit _ | dma _ | cmos _ | external _ => true

theorem calms_read (port : UInt16) : Calms (Device.read port) where
  blank := blank_read port
  controller c b h c' hc' := by
    obtain rfl : (c.readPort port).2 = c' := Device.pic.inj hc'
    exact h.readPort port
  other d b hd he := by
    cases d with
    | pic c => cases hd
    | pit t => exact t.keepsCalm_readPort port b
    | dma | cmos => exact .refl b
    | external e => exact absurd rfl (he e)

theorem calms_write (port : UInt16) (value : UInt8) : Calms (Device.write port value) where
  blank := blank_write port value
  controller c b _ c' hc' := by
    obtain rfl : (c.writeAndDeliver b.vm port value b.guest).val.1 = c' := Device.pic.inj hc'
    exact c.calm_writeAndDeliver b.vm port value b.guest
  other d b hd he := by
    cases d with
    | pic c => cases hd
    | pit | cmos => exact .refl b
    | dma d =>
      unfold write
      dsimp only
      split <;> exact .refl b
    | external e => exact absurd rfl (he e)

theorem calms_tick : Calms Device.tick where
  blank := blank_tick
  controller c b h c' hc' := by
    obtain rfl : c = c' := Device.pic.inj hc'
    exact h
  other d b hd he := by
    cases d with
    | pit t => exact t.keepsCalm_runExpiry b
    | pic | dma | cmos => exact .refl b
    | external e => exact absurd rfl (he e)

end Device

/-! ## Sessions -/

namespace Vm

variable {α : Type} {v v' : Vm} {id : DeviceId} {d : Device} {c : InterruptController}

/-- A session whose devices are built in, at most one of them a controller. -/
structure Plain (v : Vm) : Prop where
  builtin : ∀ id e, v.device? id ≠ some (.external e)
  single : ∀ id id' c c', v.device? id = some (.pic c) → v.device? id' = some (.pic c') → id = id'

/-- The line that the guest would be entered for if it were offered one now. -/
def deliverable? (v : Vm) : Option Line := v.controller?.bind fun p => p.2.deliverable? v.guest

def Calm (v : Vm) : Prop := ∀ id c, v.controller? = some (id, c) → c.Calm v.guest

theorem calm_of_deliverable? (h : v.deliverable? = none) : v.Calm := by
  intro id c hc
  rw [deliverable?, hc] at h
  exact .inr h

theorem Calm.deliverable? (h : v.Calm) (hfaulted : v.guest.faulted = false) :
    v.deliverable? = none := by
  rw [Vm.deliverable?, Option.bind_eq_none_iff]
  intro p hp
  refine (h p.1 p.2 hp).resolve_left ?_
  rw [hfaulted]
  exact Bool.false_ne_true

theorem Keeps.plain (h : v.Keeps v') (hv : v.Plain) : v'.Plain where
  builtin id e he := by
    obtain ⟨d, hd, hblank⟩ := device?_of_arena h.arena he
    cases d with
    | external e' => exact hv.builtin id e' hd
    | pic | pit | dma | cmos => cases hblank
  single id id' c c' hc hc' := by
    obtain ⟨d, hd, hblank⟩ := device?_of_arena h.arena hc
    obtain ⟨d', hd', hblank'⟩ := device?_of_arena h.arena hc'
    cases d <;> cases hblank
    cases d' <;> cases hblank'
    exact hv.single _ _ _ _ hd hd'

/-- A controller alone. -/
theorem plain_of_arena (h : v.arena = [some (.pic c)]) : v.Plain := by
  have hall : ∀ {i d}, v.device? i = some d → i = 0 ∧ d.blank = .pic c := by
    intro i d hd
    have harena := getElem?_arena hd
    rw [h, List.getElem?_singleton] at harena
    split at harena
    next hi => exact ⟨hi, (Option.some.inj (Option.some.inj harena)).symm⟩
    next => cases harena
  refine ⟨fun i e he => ?_, fun i i' _ _ hi hi' => (hall hi).1.trans (hall hi').1.symm⟩
  cases (hall he).2

theorem firstOf?_eq_none {f : Device → Option α} {i : DeviceId} {devices : List (Option Device)}
    (h : firstOf? f i devices = none) : ∀ d, some d ∈ devices → f d = none := by
  induction devices generalizing i with
  | nil => nofun
  | cons first rest ih =>
    unfold firstOf? at h
    split at h
    · cases h
    next hfirst =>
      intro d hd
      rcases List.mem_cons.1 hd with rfl | hd
      · exact hfirst
      · exact ih h d hd

/-- The controller is where a controller stands. -/
theorem Plain.controller?_eq_some_iff (hv : v.Plain) :
    v.controller? = some (id, c) ↔ v.device? id = some (.pic c) := by
  refine ⟨device?_of_controller?, fun h => ?_⟩
  cases hc : v.controller? with
  | none =>
    obtain ⟨o, ho, rfl⟩ : ∃ o, v.devices[id]? = some o ∧ o = some (.pic c) := by
      simpa [device?, Option.join_eq_some_iff] using h
    cases firstOf?_eq_none hc _ (List.mem_of_getElem? ho)
  | some found =>
    obtain ⟨id', c'⟩ := found
    have h' := device?_of_controller? hc
    obtain rfl := hv.single _ _ _ _ h' h
    rw [h] at h'
    cases h'
    rfl

theorem Plain.lift (hv : v.Plain) (id : DeviceId) : (v.setDevice id none).Plain where
  builtin other e he := hv.builtin other e (device?_lift he).2
  single _ _ c c' hc hc' := hv.single _ _ c c' (device?_lift hc).2 (device?_lift hc').2

/-- A controller stands where one stood. -/
theorem Keeps.controller? (h : v.Keeps v') (hv : v.Plain) {c' : InterruptController}
    (hc' : v'.controller? = some (id, c')) : ∃ c, v.controller? = some (id, c) := by
  obtain ⟨d, hd, hblank⟩ := device?_of_arena h.arena (device?_of_controller? hc')
  cases d with
  | pic c => exact ⟨c, hv.controller?_eq_some_iff.2 hd⟩
  | pit | dma | cmos | external => cases hblank

theorem controller?_setController (hv : v.Plain) (h : v.controller? = some (id, c))
    (guest : Guest) (c' : InterruptController) :
    ({ v with guest }.setDevice id (some (.pic c'))).controller? = some (id, c') := by
  have hkeeps : v.Keeps ({ v with guest }.setDevice id (some (.pic c'))) :=
    (v.keeps_guest guest).trans (keeps_setController h)
  refine (hkeeps.plain hv).controller?_eq_some_iff.2 ?_
  have hplace : { v with guest }.device? id = some (.pic c) := device?_of_controller? h
  exact device?_setDevice_self hplace _

/-! ## Calls -/

variable {f : Device → Bus → Traced (α × Device × Bus)}

/-- The controller itself is called. -/
theorem Calm.call_controller (h : v.Calm) (hv : v.Plain) (hf : Device.Calms f)
    (hc : v.controller? = some (id, c)) (clock : Clock) : (v.call id clock f).val.2.Calm := by
  have hkeeps := v.keeps_call id clock hf.blank
  have hd := device?_of_controller? hc
  intro i c' hc'
  obtain ⟨c₀, hc₀⟩ := hkeeps.controller? hv hc'
  obtain rfl : id = i := congrArg Prod.fst (Option.some.inj (hc.symm.trans hc₀))
  have hplace := device?_of_controller? hc'
  rw [val_call hd] at hplace ⊢
  show c'.Calm ((v.setDevice id none).settle _).guest
  rw [guest_settle]
  exact hf.controller c _ (h id c hc) c' (eq_of_device?_setDevice hplace)

/-- Another device is called, and sees the controller on the bus. -/
theorem Calm.call_other (h : v.Calm) (hv : v.Plain) (hf : Device.Calms f)
    (hd : v.device? id = some d) (hpic : d.controller? = none) (clock : Clock) :
    (v.call id clock f).val.2.Calm := by
  have hkeeps := v.keeps_call id clock hf.blank
  have hplain := hkeeps.plain hv
  have hquiet := hf.other d ((v.setDevice id none).bus clock) hpic fun e he =>
    hv.builtin id e (he ▸ hd)
  intro i c' hc'
  obtain ⟨c, hc⟩ := hkeeps.controller? hv hc'
  have hne : i ≠ id := by
    rintro rfl
    rw [device?_of_controller? hc] at hd
    cases hd
    cases hpic
  have hlifted : (v.setDevice id none).controller? = some (i, c) := by
    rw [(hv.lift id).controller?_eq_some_iff, device?_setDevice_other hne]
    exact device?_of_controller? hc
  have hbus : ((v.setDevice id none).bus clock).controller = some c := by
    rw [bus, hlifted]
    rfl
  obtain ⟨c₂, hc₂⟩ := Option.isSome_iff_exists.1 (hquiet.isSome.trans (by rw [hbus]; rfl))
  have hcalm : c₂.Calm _ := hquiet.calm (fun c₀ hc₀ => ?_) c₂ hc₂
  · have hplace := device?_of_controller? hc'
    rw [val_call hd] at hplace ⊢
    dsimp only at hplace ⊢
    rw [device?_setDevice_other hne, settle_eq hlifted hc₂] at hplace
    obtain rfl := Device.pic.inj (eq_of_device?_setDevice hplace)
    show c₂.Calm ((v.setDevice id none).settle _).guest
    rwa [guest_settle]
  · obtain rfl : c = c₀ := Option.some.inj (hbus.symm.trans hc₀)
    exact h i c hc

/-- **A call** of a device of a plain session leaves it calm. -/
theorem Calm.call (h : v.Calm) (hv : v.Plain) (hf : Device.Calms f) (id : DeviceId)
    (clock : Clock) : (v.call id clock f).val.2.Calm := by
  cases hd : v.device? id with
  | none =>
    rw [Vm.call, hd]
    exact h
  | some d =>
    cases d with
    | pic c => exact h.call_controller hv hf (hv.controller?_eq_some_iff.2 hd) clock
    | pit | dma | cmos => exact h.call_other hv hf hd rfl clock
    | external e => exact absurd hd (hv.builtin id e)

/-! ## Accesses, ticks and offers -/

theorem Calm.readByte (h : v.Calm) (hv : v.Plain) (clock : Clock) (port : UInt16) :
    (v.readByte clock port).val.2.Calm := by
  unfold Vm.readByte
  split
  · exact h
  · exact h.call hv (Device.calms_read port) _ clock

theorem Calm.writeByte (h : v.Calm) (hv : v.Plain) (clock : Clock) (port : UInt16) (value : UInt8) :
    (v.writeByte clock port value).val.2.Calm := by
  unfold Vm.writeByte
  split
  · exact h
  · exact h.call hv (Device.calms_write port value) _ clock

theorem Calm.readBytes (h : v.Calm) (hv : v.Plain) (clock : Clock) (port : UInt16) (width : Nat) :
    (v.readBytes clock port width).val.2.Calm := by
  induction width generalizing v port with
  | zero => exact h
  | succ width ih =>
    exact ih (h.readByte hv clock port) ((v.keeps_readByte clock port).plain hv) (port + 1)

theorem Calm.writeBytes (h : v.Calm) (hv : v.Plain) (clock : Clock) (port : UInt16)
    (values : List UInt8) : (v.writeBytes clock port values).val.2.Calm := by
  induction values generalizing v port with
  | nil => exact h
  | cons value values ih =>
    exact ih (h.writeByte hv clock port value) ((v.keeps_writeByte clock port value).plain hv)
      (port + 1)

theorem Calm.tickDevice (h : v.Calm) (hv : v.Plain) (clock : Clock) (id : DeviceId) :
    (tickDevice clock v id).val.Calm :=
  h.call hv Device.calms_tick id clock

theorem Calm.tick (h : v.Calm) (hv : v.Plain) (clock : Clock) : (v.tick clock).val.Calm := by
  have hfold : ∀ (ids : List DeviceId) {v : Vm}, v.Calm → v.Plain →
      (ids.foldlM (Vm.tickDevice clock) v).val.Calm := by
    intro ids
    induction ids with
    | nil => exact fun h _ => h
    | cons id ids ih =>
      exact fun {v} h hv => ih (h.tickDevice hv clock id) ((v.keeps_tickDevice clock id).plain hv)
  exact hfold v.deviceIds h hv

theorem Calm.syncTimer (h : v.Calm) (hv : v.Plain) (clock : Clock) :
    (v.syncTimer clock).val.Calm := by
  unfold Vm.syncTimer
  split
  · exact h
  · exact h.tickDevice hv clock _

theorem Calm.raise (h : v.Calm) (hv : v.Plain) (line : UInt8) : (v.raise line).val.2.Calm := by
  unfold Vm.raise
  cases hc : v.controller? with
  | none => exact h
  | some found =>
    obtain ⟨id, c⟩ := found
    intro i c' hc'
    rw [val_bind, val_pure, controller?_setController hv hc] at hc'
    cases hc'
    exact (h id c hc).raise v.id line

/-- **An offer** to the guest of a plain session leaves it calm, whatever was before. -/
theorem calm_deliver (hv : v.Plain) : v.deliver.val.2.Calm := by
  unfold deliver
  cases hc : v.controller? with
  | none =>
    intro i c' hc'
    rw [val_pure, hc] at hc'
    cases hc'
  | some found =>
    obtain ⟨id, c⟩ := found
    intro i c' hc'
    rw [val_bind, val_pure, controller?_setController hv hc] at hc'
    cases hc'
    exact c.calm_deliver v.id v.guest

/-- An edit has no say in what is deliverable. -/
theorem Calm.edited (h : v.Calm) (hv : v.Plain) (hedited : v.Edited v') : v'.Calm := by
  cases hedited with
  | same | io | services => exact h
  | @device id d d' place other blank =>
    intro i c' hc'
    obtain ⟨c, hc⟩ := (keeps_setDevice place blank).controller? hv hc'
    have hne : i ≠ id := by
      rintro rfl
      rw [device?_of_controller? hc] at place
      cases place
      cases other
    have hplace := device?_of_controller? hc'
    rw [device?_setDevice_other hne, ← hv.controller?_eq_some_iff] at hplace
    exact h i c' hplace

/-! ## New devices -/

theorem firstOf?_append {f : Device → Option α} (i : DeviceId) (xs ys : List (Option Device)) :
    firstOf? f i (xs ++ ys) = (firstOf? f i xs).or (firstOf? f (i + xs.length) ys) := by
  induction xs generalizing i with
  | nil => rfl
  | cons x xs ih =>
    rw [List.cons_append, firstOf?, firstOf?]
    cases x.bind f with
    | some a => rfl
    | none =>
      dsimp only
      rw [ih, List.length_cons, Nat.add_right_comm]
      rfl

theorem controller?_of_append {v' : Vm} {o : Option Device} (h : v'.devices = v.devices ++ [o]) :
    v'.controller? = v.controller?.or ((o.bind Device.controller?).map (v.devices.length, ·)) := by
  rw [controller?, findDevice?, h, firstOf?_append, Nat.zero_add]
  cases hc : o.bind Device.controller? <;> simp [firstOf?, hc] <;> rfl

theorem deliverable?_initial (g : Guest) : InterruptController.initial.deliverable? g = none := by
  have hoffered : ∀ vif, InterruptController.initial.offered? vif = none := by decide
  rw [InterruptController.deliverable?, hoffered, ite_self]

theorem deliverable?_attach (h : v.deliverable? = none) (hd : d.isFresh = true) :
    (v.attach d).2.deliverable? = none := by
  have hguest : (v.attach d).2.guest = v.guest := rfl
  have hdevices : (v.attach d).2.devices = v.devices ++ [some d] := rfl
  rw [Vm.deliverable?, controller?_of_append hdevices, hguest]
  cases hc : v.controller? with
  | some found =>
    rw [Vm.deliverable?, hc] at h
    exact h
  | none =>
    cases d with
    | pic c =>
      obtain rfl : c = .initial := of_decide_eq_true hd
      exact deliverable?_initial v.guest
    | pit | dma | cmos | external => rfl

theorem deliverable?_retract (h : v.deliverable? = none) (d : Device) :
    ((v.attach d).2.detach (v.attach d).1).deliverable? = none := by
  have hguest : ((v.attach d).2.detach (v.attach d).1).guest = v.guest := rfl
  have hdevices : ((v.attach d).2.detach (v.attach d).1).devices = v.devices ++ [none] := by
    simp [detach, Vm.setDevice, attach]
  rw [Vm.deliverable?, controller?_of_append hdevices, hguest]
  simpa [Vm.deliverable?] using h

end Vm
end RealModeMonitor
