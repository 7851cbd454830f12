import RealModeMonitor.Proofs.CommandLine.Guest
import RealModeMonitor.Proofs.Monitor.Placing

/-!
# Starting the sessions

The program starts its sessions one after the other, and sets each up before the next: a handler for
the timer's vector, thirteen bytes for the controllers and channel 0 of the timer, interrupts on.
None of the steps can fail with usable options (`startSession_started`), and they leave a session
whose guest is at rest, whose controllers are idle and whose timer was armed at tick 0 (`Resting`).

Main result: `startSessions_started`.
-/

namespace RealModeMonitor.CommandLine

open Traced Monitor

section

variable {config : Config} {m m' : Monitor} {id : VmId} {size : Nat}
  {c c' : InterruptController} {t t' : IntervalTimer} {g g' : Guest} {k : Clock}

theorem ok_bind {α β : Type} (a : α) (f : α → Except Failure β) : (.ok a >>= f) = f a := rfl

theorem settled_eq {α : Type} {x : Traced (Except MonitorError α × Monitor)} {a : α}
    (h : x.val = (.ok a, m)) : settled x = .ok (a, m) := by
  rw [settled, h]

/-! ## Operations on a standard session -/

/-- Work that succeeds on a standard session. -/
theorem settled_standard {α : Type} {f : Vm → Traced (Except MonitorError α × Vm)} {a : α}
    (hm : Sound config m) (live : m.registry.get? id = some (.standard id size c t g))
    (hf : (f (.standard id size c t g)).val = (.ok a, .standard id size c' t' g'))
    (hfaulted : g'.faulted = false) :
    ∃ m', settled (m.withVm id f) = .ok (a, m') ∧
      Placed config m id (.standard id size c' t' g') m' := by
  obtain ⟨m', hval, hplaced⟩ := withVm_standard hm live hf hfaulted
  exact ⟨m', settled_eq hval, hplaced⟩

/-- A byte that a device of a standard session takes. -/
theorem ioOut_standard {port : UInt16} {value : UInt8} (hm : Sound config m)
    (live : m.registry.get? id = some (.standard id size c t g))
    (hwritten : ((Vm.standard id size c t g).writeByte m.clock port value).val =
      (true, .standard id size c' t' g')) (hfaulted : g'.faulted = false) :
    ∃ m', settled (m.ioOut id port (.byte value)) = .ok (true, m') ∧
      Placed config m id (.standard id size c' t' g') m' := by
  have hbytes : ((Vm.standard id size c t g).writeBytes m.clock port
      (Operand.byte value).bytes).val = (true, .standard id size c' t' g') := by
    show ((Vm.standard id size c t g).writeBytes m.clock port [value]).val = _
    simp only [Vm.writeBytes, val_bind, val_pure, hwritten]
    rfl
  refine settled_standard hm live ?_ hfaulted
  simp only [val_bind, hbytes]
  split <;> rfl

/-- The guest of a standard session acts. -/
theorem withGuest_standard {actions : List Guest.Action} {replies : List Guest.Reply}
    (hm : Sound config m) (live : m.registry.get? id = some (.standard id size c t g))
    (hrun : (g.run actions).val = (replies, g')) (hfaulted : g'.faulted = false) :
    ∃ m', settled (m.withGuest id actions) = .ok (replies, m') ∧
      Placed config m id (.standard id size c t g') m' := by
  have hguest : ((Vm.standard id size c t g).guest.run actions).val = (replies, g') := hrun
  refine settled_standard hm live ?_ hfaulted
  simp only [val_bind, val_pure, hguest]
  rfl

/-- A look at the controllers changes nothing. -/
theorem controllerOf_standard (hm : Sound config m)
    (live : m.registry.get? id = some (.standard id size c t g)) (hfaulted : g.faulted = false) :
    ∃ m', settled (m.controllerOf id) = .ok (c, m') ∧
      Placed config m id (.standard id size c t g) m' :=
  settled_standard hm live rfl hfaulted

/-- What is offered to the guest of a standard session with idle controllers: nothing. -/
theorem deliverOn_idle (delivered : Nat) :
    (deliverOn id (.standard id size (idleController delivered) t g)).val =
      (.ok none, .standard id size (idleController delivered) t g) := by
  rw [deliverOn, val_bind, Vm.deliver_standard, deliver_idle]
  rfl

/-- The guest of a standard session with idle controllers switches its interrupts on. -/
theorem enableInterrupts_idle {delivered : Nat} (hm : Sound config m)
    (live : m.registry.get? id = some (.standard id size (idleController delivered) t g))
    (hfaulted : g.faulted = false) :
    ∃ m', settled (m.enableInterrupts id) = .ok (none, m') ∧
      Placed config m id (.standard id size (idleController delivered) t (g.setVif true)) m' :=
  settled_standard hm live (deliverOn_idle delivered) hfaulted

/-- The guest of a standard session with idle controllers returns from a handler. -/
theorem guestIret_idle {delivered : Nat} (hm : Sound config m)
    (live : m.registry.get? id = some (.standard id size (idleController delivered) t g))
    (hiret : g.iret = (.ok (), g')) (hfaulted : g'.faulted = false) :
    ∃ m', settled (m.guestIret id) = .ok (none, m') ∧
      Placed config m id (.standard id size (idleController delivered) t g') m' := by
  have hguest : (Vm.standard id size (idleController delivered) t g).guest.iret = (.ok (), g') :=
    hiret
  refine settled_standard hm live ?_ hfaulted
  rw [hguest]
  exact deliverOn_idle delivered

/-! ## Registers and vector table -/

/-- After the first actions of a set-up a guest is at rest as soon as its interrupts are on. -/
theorem run_bootActions (hsize : stackEnd ≤ size) :
    ∃ replies g, (Guest.run { memory := .blank size } bootActions).val = (replies, g) ∧
      firstFault? replies = none ∧ g.vif = false ∧ AtRest size (g.setVif true) := by
  have hfits : ∀ (m : Memory) a, m.size = size → a + 2 ≤ stackEnd → m.Fits a 2 := by
    intro m a hm ha
    rw [Memory.Fits, hm]
    omega
  have hvector : (Memory.blank size).writeVector timerVector timerHandler =
      (.ok (), ((Memory.blank size).storeWord 0x20 timerHandler.offset).storeWord 0x22
        timerHandler.segment) := by
    have hfirst : (Memory.blank size).Fits (4 * timerVector.toNat) 2 :=
      hfits _ _ rfl (by decide)
    have hsecond : ((Memory.blank size).storeWord 0x20 timerHandler.offset).Fits
        (4 * timerVector.toNat + 2) 2 := hfits _ _ (Memory.size_storeWord _ _ _) (by decide)
    rw [Memory.writeVector, Memory.writeWord_eq hfirst]
    exact Memory.writeWord_eq hsecond _
  let memory := ((Memory.blank size).storeWord 0x20 timerHandler.offset).storeWord 0x22
    timerHandler.segment
  have hmemory : memory.size = size := by
    simp only [memory, Memory.size_storeWord]
    rfl
  refine ⟨[.done, .memory .done], { memory, frame := { restFrame with flags := 2 } }, ?_, rfl, ?_,
    ?_, hmemory, rfl, rfl, rfl⟩
  · simp only [bootActions, Guest.run, val_bind, val_pure, Guest.val_act, Guest.perform,
      Memory.perform, hvector]
    rfl
  · show (({ restFrame with flags := 2 } : Frame).flags &&& Frame.interruptFlag != 0) = false
    decide
  · show { restFrame with flags := 2 ||| Frame.interruptFlag } = restFrame
    decide

/-! ## The controllers and the timer -/

/-- What a byte written to a port of the controllers or the timer makes of them. -/
def bootStep (id : VmId) (k : Clock) (g : Guest) (s : InterruptController × IntervalTimer)
    (p : UInt16 × UInt8) : InterruptController × IntervalTimer :=
  if p.1 ∈ [0x20, 0x21, 0xA0, 0xA1] then ((s.1.writePort id p.1 p.2).val, s.2)
  else (s.1, (s.2.writePort p.1 p.2 (Vm.standardBus id k s.1 g)).val)

/-- Bytes written while the guest has interrupts off. -/
theorem writeAll_standard {writes : List (UInt16 × UInt8)}
    {s : InterruptController × IntervalTimer} (hm : Sound config m)
    (live : m.registry.get? id = some (.standard id size s.1 s.2 g)) (hvif : g.vif = false)
    (hfaulted : g.faulted = false)
    (hports : ∀ port ∈ writes.map Prod.fst,
      port ∈ [0x20, 0x21, 0xA0, 0xA1] ∨ port ∈ [0x40, 0x43]) :
    ∃ m', writeAll id m writes = .ok m' ∧
      Placed config m id
        (.standard id size (writes.foldl (bootStep id m.clock g) s).1
          (writes.foldl (bootStep id m.clock g) s).2 g) m' := by
  induction writes generalizing m s with
  | nil => exact ⟨m, rfl, .refl hm live⟩
  | cons p writes ih =>
    rw [List.map_cons] at hports
    obtain ⟨hport, hports⟩ := List.forall_mem_cons.1 hports
    have hwritten : ((Vm.standard id size s.1 s.2 g).writeByte m.clock p.1 p.2).val =
        (true, .standard id size (bootStep id m.clock g s p).1
          (bootStep id m.clock g s p).2 g) := by
      by_cases hcontroller : p.1 ∈ [0x20, 0x21, 0xA0, 0xA1]
      · have hquiet : (s.1.writeAndDeliver id p.1 p.2 g).val =
            ((s.1.writePort id p.1 p.2).val, g) := by
          have hnone : (s.1.writePort id p.1 p.2).val.offered? g.vif = none := by
            rw [hvif]
            rfl
          rw [InterruptController.val_writeAndDeliver, InterruptController.deliver, hnone]
          rfl
        rw [Vm.writeByte_controller m.clock p.2 hcontroller, hquiet, bootStep,
          if_pos hcontroller]
      · rw [Vm.writeByte_timer m.clock p.2 (hport.resolve_left hcontroller), bootStep,
          if_neg hcontroller]
    obtain ⟨m₁, hval, h₁⟩ := ioOut_standard hm live hwritten hfaulted
    obtain ⟨m₂, hrest, h₂⟩ := ih h₁.sound h₁.live hports
    rw [h₁.clock] at h₂
    refine ⟨m₂, ?_, h₁.trans h₂⟩
    obtain ⟨port, value⟩ := p
    rw [writeAll, List.foldlM_cons]
    dsimp only
    rw [hval]
    exact hrest

/-- The bytes of the set-up make the controllers idle and arm channel 0. -/
theorem bootWrites_eq (id : VmId) (hz : UInt32) (g : Guest) (reload : UInt16) :
    ((bootWrites reload).foldl (bootStep id { hz } g) (.initial, .initial)).1 =
        idleController 0 ∧
      ((bootWrites reload).foldl (bootStep id { hz } g) (.initial, .initial)).2.channel 0 =
        armedChannel hz reload := by
  have hcontrollers : ((bootWrites reload).take 10).foldl (bootStep id { hz } g)
      (.initial, .initial) = (idleController 0, .initial) := by cbv
  have hsplit : (bootWrites reload).foldl (bootStep id { hz } g) (.initial, .initial) =
      ((bootWrites reload).drop 10).foldl (bootStep id { hz } g) (idleController 0, .initial) := by
    rw [← hcontrollers, ← List.foldl_append, List.take_append_drop]
  rw [hsplit]
  refine ⟨rfl, ?_⟩
  -- The low byte waits for the high one, which arms the channel.
  let b := Vm.standardBus id { hz } (idleController 0) g
  have hcontrol : (IntervalTimer.initial.writePort 0x43 0x34 b).val.channel 0 =
      (IntervalTimer.initial.channel 0).program 0x34 .lowHigh :=
    IntervalTimer.initial.channel_writePort 0x43 0x34 b 0
  have hdata : ∀ (t : IntervalTimer) value, (t.writePort 0x40 value b).val.channel 0 =
      ((t.channel 0).write b.clock value).2 := fun t value => t.channel_writePort 0x40 value b 0
  show ((((IntervalTimer.initial.writePort 0x43 0x34 b).val.writePort 0x40
    (Byte.lowByte reload) b).val.writePort 0x40 (Byte.highByte reload) b).val).channel 0 = _
  rw [hdata, hdata, hcontrol]
  have hreload := Byte.word_lowByte_highByte reload
  show Channel.arm
    { mode := .rateGenerator
      control := 0x34
      reload := Byte.word (Byte.lowByte reload) (Byte.highByte reload) } b.clock = _
  rw [hreload]
  rfl

theorem upToDate_armed {hz : UInt32} {reload : UInt16}
    (harmed : t.channel 0 = armedChannel hz reload) :
    UpToDate (armedChannel hz reload) 0 { hz } t where
  schedule := by
    rw [harmed, Nat.zero_div]
    exact ⟨rfl, rfl, rfl, rfl, rfl, rfl, Nat.le_refl _, rfl⟩
  free := by
    rw [harmed]
    rfl

/-! ## Set-up -/

/-- The set-up of a new standard session. -/
theorem boot_standard {hz : UInt32} (reload : UInt16) (hm : Sound config m)
    (hclock : m.clock = { hz }) (hsize : stackEnd ≤ size)
    (live : m.registry.get? id =
      some (.standard id size .initial .initial { memory := .blank size })) :
    ∃ m' t g, boot m id reload = .ok m' ∧
      Placed config m id (.standard id size (idleController 0) t g) m' ∧
      UpToDate (armedChannel hz reload) 0 { hz } t ∧ AtRest size g := by
  obtain ⟨replies, g, hrun, hnofault, hvif, hrest⟩ := run_bootActions hsize
  obtain ⟨m₁, hacts, h₁⟩ := withGuest_standard hm live hrun hrest.faulted
  have hports : ∀ port ∈ (bootWrites reload).map Prod.fst,
      port ∈ [0x20, 0x21, 0xA0, 0xA1] ∨ port ∈ [0x40, 0x43] := by
    simp [bootWrites]
  obtain ⟨m₂, hwrites, h₂⟩ := writeAll_standard (s := (.initial, .initial)) h₁.sound h₁.live
    hvif hrest.faulted hports
  rw [h₁.clock, hclock] at h₂
  obtain ⟨hidle, harmed⟩ := bootWrites_eq id hz g reload
  rw [hidle] at h₂
  obtain ⟨m₃, henable, h₃⟩ := enableInterrupts_idle h₂.sound h₂.live hrest.faulted
  refine ⟨m₃, _, _, ?_, (h₁.trans h₂).trans h₃, upToDate_armed harmed, hrest⟩
  simp only [boot, hacts, ok_bind, hnofault, hwrites, henable]
  rfl

end

/-! ## Usable options -/

/-- Options with which all sessions can be started. -/
structure Usable (o : Options) : Prop where
  slots : 1 ≤ o.maxVms
  limit : o.maxVms ≤ mostSlots
  vms : o.vms ≤ o.maxVms
  tickHz : 1 ≤ o.tickHz.toNat
  memory : 640 ≤ o.memoryKb
  /-- The bytes of a guest's memory are counted in a machine word. -/
  granted : o.memoryKb * 1024 < UInt64.size

variable {o : Options} {i n total delivered : Nat} {m m' : Monitor}
  {P : Clock → VmId → Vm → Prop}

theorem Usable.guestMemory (h : Usable o) : (config o).guestMemory = o.memoryKb * 1024 :=
  Nat.mod_eq_of_lt h.granted

theorem Usable.stackEnd_le (h : Usable o) : stackEnd ≤ (config o).guestMemory := by
  have hmemory := h.memory
  rw [h.guestMemory, stackEnd]
  omega

theorem Usable.check (h : Usable o) : (config o).check = .ok () := by
  have htickHz : o.tickHz ≠ 0 := by
    intro hzero
    have hpos := h.tickHz
    rw [hzero] at hpos
    exact absurd hpos (by decide)
  have hleast : leastGuestMemory ≤ (config o).guestMemory :=
    Nat.le_trans (by decide) h.stackEnd_le
  exact Config.check_eq_ok_iff.2 ⟨⟨h.slots, h.limit⟩, show 64 ≠ 0 by decide, htickHz, hleast⟩

/-! ## Sessions between batches -/

/-- The session in slot `i`; no session dies, so the slot is used once. -/
def sessionId (i : Nat) : VmId := ⟨UInt16.ofNat i, 0⟩

theorem toNat_slot_sessionId (h : i < mostSlots) : (sessionId i).slot.toNat = i := by
  unfold mostSlots at h
  rw [sessionId, UInt16.toNat_ofNat']
  omega

/-- The session between two batches: `total` ticks passed since it was set up, and its guest took
`delivered` interrupts. -/
def Resting (o : Options) (total delivered : Nat) (k : Clock) (id : VmId) (v : Vm) : Prop :=
  ∃ t g, v = .standard id (config o).guestMemory (idleController delivered) t g ∧
    UpToDate (armedChannel o.tickHz o.reload) total k t ∧ AtRest (config o).guestMemory g

/-- `P` holds of the first `n` sessions of a sound monitor, at its clock. -/
structure Everywhere (o : Options) (n : Nat) (P : Clock → VmId → Vm → Prop) (m : Monitor) :
    Prop where
  sound : Sound (config o) m
  each : ∀ i < n, ∃ v, m.registry.get? (sessionId i) = some v ∧ P m.clock (sessionId i) v

/-- One of the sessions changes, or one more starts. -/
theorem Everywhere.place {v : Vm} {n' : Nat} (hm : Everywhere o n P m)
    (hplaced : Placed (config o) m (sessionId i) v m') (hv : P m.clock (sessionId i) v)
    (hi : i < mostSlots) (hn : n ≤ mostSlots) (hnew : ∀ j < n', j = i ∨ j < n) :
    Everywhere o n' P m' where
  sound := hplaced.sound
  each j hj := by
    rw [hplaced.clock]
    by_cases hji : j = i
    · subst hji
      exact ⟨v, hplaced.live, hv⟩
    · have hjn : j < n := (hnew j hj).resolve_left hji
      have hother : (sessionId j).slot ≠ (sessionId i).slot := by
        intro heq
        have hslot := toNat_slot_sessionId (Nat.lt_of_lt_of_le hjn hn)
        rw [heq, toNat_slot_sessionId hi] at hslot
        exact hji hslot.symm
      rw [hplaced.get?_other hother]
      exact hm.each j hjn

/-- The program started `n` sessions, and no time passed. -/
structure Started (o : Options) (n : Nat) (m : Monitor) : Prop
    extends Everywhere o n (Resting o 0 0) m where
  clock : m.clock = { hz := o.tickHz }
  free : ∀ i, n ≤ i → i < o.maxVms → m.registry.slots[i]? = some {}

/-! ## Starting -/

theorem started_zero (h : Usable o) (trace : Bool) :
    ∃ m, (start (config o)).val = .ok m ∧ Started o 0 (m.setIoTrace trace) := by
  obtain ⟨m, hstart⟩ : ∃ m, (start (config o)).val = .ok m := by
    rw [start, h.check]
    exact ⟨_, rfl⟩
  have hstep : Step m [] (m.setIoTrace trace) := .elsewhere rfl rfl rfl
  have hsound := (sound_start hstart).step hstep
  obtain ⟨-, rfl⟩ := start_eq_ok hstart
  refine ⟨_, hstart, ⟨hsound, fun i hi => absurd hi (Nat.not_lt_zero i)⟩, rfl, ?_⟩
  intro i _ hi
  simpa [setIoTrace, Registry.ofSize, Array.getElem?_replicate, config] using hi

/-- **One more session** starts, in the next slot. -/
theorem startSession_started (h : Usable o) (hm : Started o n m) (hn : n < o.maxVms) :
    ∃ m', startSession o.reload m = .ok (sessionId n, m') ∧ Started o (n + 1) m' := by
  have hslots : n < mostSlots := Nat.lt_of_lt_of_le hn h.limit
  have hbefore : ∀ i < n, ∃ s, m.registry.slots[i]? = some s ∧ s.vm.isSome = true := by
    intro i hi
    obtain ⟨v, hv, -⟩ := hm.each i hi
    rw [Registry.get?_eq_some_iff, toNat_slot_sessionId (by omega)] at hv
    exact ⟨_, hv, rfl⟩
  obtain ⟨m₁, hcreate, h₁⟩ := createVm_placed hm.sound (hm.free n (Nat.le_refl n) hn) hbefore
  obtain ⟨m₂, hinstall, h₂⟩ := installStandardDevices_placed h₁.sound h₁.live
  obtain ⟨m₃, t, g, hboot, h₃, htimer, hguest⟩ := boot_standard o.reload h₂.sound
    ((h₁.trans h₂).clock.trans hm.clock) h.stackEnd_le h₂.live
  have hplaced := (h₁.trans h₂).trans h₃
  have hresting : Resting o 0 0 m.clock (sessionId n) _ := ⟨t, g, rfl, hm.clock ▸ htimer, hguest⟩
  refine ⟨m₃, ?_, hm.place hplaced hresting hslots hslots.le (by omega),
    hplaced.clock.trans hm.clock, ?_⟩
  · have hid : settled m.createVm = .ok (sessionId n, m₁) := settled_eq hcreate
    have hdevices : settled (m₁.installStandardDevices (sessionId n)) = .ok ((), m₂) :=
      settled_eq hinstall
    have hset : boot m₂ (sessionId n) o.reload = .ok m₃ := hboot
    simp only [startSession, hid, ok_bind, hdevices, hset]
    rfl
  · intro i hni hi
    have hne : i ≠ (sessionId n).slot.toNat := by
      rw [toNat_slot_sessionId hslots]
      omega
    rw [hplaced.others i hne]
    exact hm.free i (by omega) hi

/-- **All sessions** start, in the order of the slots. -/
theorem startSessions_started (h : Usable o) (more : Nat) (hm : Started o n m)
    (hmore : n + more ≤ o.maxVms) :
    ∃ m', startSessions o.reload more ((List.range n).map sessionId) m =
      .ok ((List.range (n + more)).map sessionId, m') ∧ Started o (n + more) m' := by
  induction more generalizing n m with
  | zero => exact ⟨m, rfl, hm⟩
  | succ more ih =>
    obtain ⟨m₁, hfirst, h₁⟩ := startSession_started h hm (by omega)
    obtain ⟨m₂, hrest, h₂⟩ := ih h₁ (by omega)
    rw [Nat.add_right_comm] at h₂ hrest
    refine ⟨m₂, ?_, h₂⟩
    rw [startSessions, hfirst]
    rw [List.range_succ, List.map_append] at hrest
    exact hrest

end RealModeMonitor.CommandLine
