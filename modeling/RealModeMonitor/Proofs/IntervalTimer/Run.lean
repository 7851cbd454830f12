import RealModeMonitor.IntervalTimer.Basic

/-!
# Runs of an interval timer

A timer is used through its ports, by host ticks, and by setting its watchers, while the host
clock advances and the rest of the session does as it likes. `Op` has the uses as data; a
`Setting` is a timer with the bus it is on, and is `Reachable` if some uses lead to it from a
fresh timer on any bus.

**Channels do not meet.** What an operation makes of a channel depends on that channel and on the
clock alone: neither on the other channels, nor on the guest and the interrupt controller that
expirations reach (`channel_step`). All that can happen to a channel is in `Channel.next`, and is
made of the changes that `Preserved` names. What each of them keeps, every run keeps
(`Reachable.induction`).
-/

namespace RealModeMonitor

namespace IntervalTimer

variable {i j : Fin 3}

theorem channel_modify (t : IntervalTimer) (f : Channel → Channel) (i j : Fin 3) :
    (t.setChannel i (f (t.channel i))).channel j =
      if i = j then f (t.channel j) else t.channel j := by
  rw [channel_setChannel]
  split
  next h => rw [h]
  next => rfl

/-! ## Expiry leaves the clock alone -/

@[simp] theorem clock_raise (b : Bus) (line : UInt8) : (b.raise line).val.2.clock = b.clock := by
  unfold Bus.raise
  cases b.controller <;> rfl

theorem clock_signal (i : Fin 3) (watcher : Option String) (b : Bus) :
    (signal i watcher b).val.clock = b.clock := by
  unfold signal
  dsimp only
  split
  · rw [Traced.val_bind]
    unfold raiseTimerLine
    simp only [Traced.val_bind]
    split <;> exact clock_raise b timerLine
  · rfl

theorem clock_times (i : Fin 3) (watcher : Option String) (n : Nat) (x : Traced Bus) :
    (Traced.times (signal i watcher) n x).val.clock = x.val.clock := by
  induction n generalizing x with
  | zero => rfl
  | succ n ih => rw [Traced.times, ih, Traced.val_bind, clock_signal]

theorem clock_signalAll (i : Fin 3) (watcher : Option String) (n : Nat) (b : Bus) :
    (signalAll i watcher n b).val.clock = b.clock := by
  unfold signalAll
  split
  · exact clock_times i watcher n (pure b)
  · rfl

theorem clock_expireChannel (s : IntervalTimer × Bus) (i : Fin 3) :
    (expireChannel s i).val.2.clock = s.2.clock :=
  clock_signalAll i _ _ s.2

theorem channel_expireChannel (s : IntervalTimer × Bus) (i j : Fin 3) :
    (expireChannel s i).val.1.channel j =
      if i = j then ((s.1.channel j).expire s.2.clock.now).2 else s.1.channel j :=
  channel_modify s.1 (fun c => (c.expire s.2.clock.now).2) i j

/-- Channels brought up to date one after the other are so at the same tick. -/
theorem val_foldlM_expireChannel (is : List (Fin 3)) (h : is.Nodup) (s : IntervalTimer × Bus) :
    (is.foldlM expireChannel s).val.2.clock = s.2.clock ∧
    (∀ j ∈ is, (is.foldlM expireChannel s).val.1.channel j =
      ((s.1.channel j).expire s.2.clock.now).2) ∧
    ∀ j ∉ is, (is.foldlM expireChannel s).val.1.channel j = s.1.channel j := by
  induction is generalizing s with
  | nil => simp
  | cons i is ih =>
    obtain ⟨hi, his⟩ := List.nodup_cons.1 h
    obtain ⟨hclock, hmem, hother⟩ := ih his (expireChannel s i).val
    rw [List.foldlM_cons, Traced.val_bind]
    refine ⟨hclock.trans (clock_expireChannel s i), ?_, ?_⟩
    · intro j hj
      rcases List.mem_cons.1 hj with rfl | hj
      · rw [hother j hi, channel_expireChannel, if_pos rfl]
      · have hij : i ≠ j := fun hij => hi (hij ▸ hj)
        rw [hmem j hj, channel_expireChannel, clock_expireChannel, if_neg hij]
    · intro j hj
      obtain ⟨hij, hj⟩ := List.ne_and_not_mem_of_not_mem_cons hj
      rw [hother j hj, channel_expireChannel, if_neg (Ne.symm hij)]

theorem clock_runExpiry (t : IntervalTimer) (b : Bus) : (t.runExpiry b).val.2.clock = b.clock :=
  (val_foldlM_expireChannel (List.finRange 3) (by decide) (t, b)).1

theorem channel_runExpiry (t : IntervalTimer) (b : Bus) (i : Fin 3) :
    (t.runExpiry b).val.1.channel i = ((t.channel i).expire b.clock.now).2 :=
  (val_foldlM_expireChannel (List.finRange 3) (by decide) (t, b)).2.1 i (List.mem_finRange i)

/-! ## Operations -/

/-- A timer and the bus it is on. -/
structure Setting where
  timer : IntervalTimer
  bus : Bus

namespace Setting

def channel (s : Setting) (i : Fin 3) : Channel := s.timer.channel i

def clock (s : Setting) : Clock := s.bus.clock

end Setting

/-- A use of a timer, or something else that happens meanwhile. -/
inductive Op where
  /-- The host clock advances, without a host tick. -/
  | advance (n : UInt32)
  | tick
  | read (port : UInt16)
  | write (port : UInt16) (value : UInt8)
  | watch (n : UInt8) (watcher : Option String)
  | stop
  /-- The session goes on without the timer. -/
  | session (guest : Guest) (controller : Option InterruptController)

namespace Setting

def step (s : Setting) : Op → Setting
  | .advance n => { s with bus := { s.bus with clock := s.bus.clock.advance n } }
  | .tick => let (timer, bus) := (s.timer.runExpiry s.bus).val; { timer, bus }
  | .read port => let (_, timer, bus) := (s.timer.readPort port s.bus).val; { timer, bus }
  | .write port value => { s with timer := (s.timer.writePort port value s.bus).val }
  | .watch n watcher => { s with timer := (s.timer.watch n watcher).toOption.getD s.timer }
  | .stop => { s with timer := s.timer.stop }
  | .session guest controller => { s with bus := { s.bus with guest, controller } }

def run (s : Setting) (ops : List Op) : Setting := ops.foldl step s

theorem run_append (s : Setting) (ops ops' : List Op) :
    s.run (ops ++ ops') = (s.run ops).run ops' :=
  List.foldl_append

/-- What some use of a fresh timer leads to. -/
def Reachable (s : Setting) : Prop := ∃ b ops, run ⟨initial, b⟩ ops = s

end Setting

/-! ## One channel -/

/-- What a control word makes of channel `i`. -/
def takeControl (i : Fin 3) (k : Clock) (value : UInt8) (c : Channel) : Channel :=
  match channelOf? (value >>> 6) with
  | none =>
    if Byte.bit value (i + 1) then
      let c := if Byte.bit value 5 then c else c.latchCount k
      if Byte.bit value 4 then c else c.latchStatus k
    else c
  | some j =>
    if j = i then
      match ByteAccess.ofBits? (value >>> 4) with
      | none => c.latchCount k
      | some access => c.program value access
    else c

end IntervalTimer

open IntervalTimer in
/-- What an operation makes of channel `i`, at clock `k`. -/
def Channel.next (i : Fin 3) (k : Clock) (c : Channel) : Op → Channel
  | .advance _ | .session _ _ => c
  | .tick => (c.expire k.now).2
  | .read port =>
    match dataPort? port with
    | none => c
    | some j =>
      let c := (c.expire k.now).2
      if j = i then (c.read k).2 else c
  | .write port value =>
    if port = controlPort then takeControl i k value c
    else if dataPort? port = some i then (c.write k value).2
    else c
  | .watch n watcher => if channelOf? n = some i then { c with watcher } else c
  | .stop => { c with armed := false, watcher := none }

namespace IntervalTimer

theorem channel_writeControl (t : IntervalTimer) (b : Bus) (value : UInt8) (i : Fin 3) :
    (t.writeControl b value).val.channel i = takeControl i b.clock value (t.channel i) := by
  unfold writeControl takeControl
  cases channelOf? (value >>> 6) with
  | none => simp [readBack, channel]
  | some j =>
    have hval : ∀ x : Traced IntervalTimer, (do
        let t ← x
        if Byte.bit value 0 then
          Traced.tell (.deviceComplaint b.vm (.unsupported .pit "BCD counting" value))
        return t : Traced IntervalTimer).val = x.val := fun x => by
      simp only [Traced.val_bind]
      split <;> rfl
    dsimp only
    rw [hval, controlChannel]
    cases ByteAccess.ofBits? (value >>> 4) with
    | none => exact channel_modify t (·.latchCount b.clock) j i
    | some access => exact channel_modify t (·.program value access) j i

theorem channel_readPort (t : IntervalTimer) (port : UInt16) (b : Bus) (i : Fin 3) :
    (t.readPort port b).val.2.1.channel i =
      match dataPort? port with
      | none => t.channel i
      | some j =>
        let c := ((t.channel i).expire b.clock.now).2
        if j = i then (c.read b.clock).2 else c := by
  unfold readPort
  cases dataPort? port with
  | none => rfl
  | some j =>
    simp only [Traced.val_bind, Traced.val_pure, channel_setChannel, channel_runExpiry,
      clock_runExpiry]
    split
    next h => rw [h]
    next => rfl

theorem clock_readPort (t : IntervalTimer) (port : UInt16) (b : Bus) :
    (t.readPort port b).val.2.2.clock = b.clock := by
  unfold readPort
  cases dataPort? port with
  | none => rfl
  | some j => exact clock_runExpiry t b

theorem channel_writePort (t : IntervalTimer) (port : UInt16) (value : UInt8) (b : Bus)
    (i : Fin 3) :
    (t.writePort port value b).val.channel i =
      if port = controlPort then takeControl i b.clock value (t.channel i)
      else if dataPort? port = some i then ((t.channel i).write b.clock value).2
      else t.channel i := by
  unfold writePort
  split
  next => exact channel_writeControl t b value i
  next =>
    cases dataPort? port with
    | none => rfl
    | some j =>
      refine (congrArg (channel · i)
        (?_ : _ = t.setChannel j ((t.channel j).write b.clock value).2)).trans ?_
      · dsimp only
        split <;> rfl
      · simp only [Option.some.injEq]
        exact channel_modify t (fun c => (c.write b.clock value).2) j i

theorem channel_watch (t : IntervalTimer) (n : UInt8) (watcher : Option String) (i : Fin 3) :
    ((t.watch n watcher).toOption.getD t).channel i =
      if channelOf? n = some i then { t.channel i with watcher } else t.channel i := by
  unfold watch
  cases channelOf? n with
  | none => rfl
  | some j =>
    simp only [Option.some.injEq]
    exact channel_modify t (fun c => { c with watcher }) j i

theorem channel_stop (t : IntervalTimer) (i : Fin 3) :
    t.stop.channel i = { t.channel i with armed := false, watcher := none } := by
  simp [stop, channel]

namespace Setting

theorem clock_step (s : Setting) (op : Op) :
    (s.step op).clock = match op with
      | .advance n => s.clock.advance n
      | _ => s.clock := by
  cases op with
  | tick => exact clock_runExpiry s.timer s.bus
  | read port => exact clock_readPort s.timer port s.bus
  | advance n | write port value | watch n watcher | stop | session guest controller => rfl

/-- **Channels do not meet.** -/
theorem channel_step (s : Setting) (op : Op) (i : Fin 3) :
    (s.step op).channel i = (s.channel i).next i s.clock op := by
  cases op with
  | advance n | session guest controller => rfl
  | tick => exact channel_runExpiry s.timer s.bus i
  | read port => exact channel_readPort s.timer port s.bus i
  | write port value => exact channel_writePort s.timer port value s.bus i
  | watch n watcher => exact channel_watch s.timer n watcher i
  | stop => exact channel_stop s.timer i

end Setting

/-! ## Invariants of a channel -/

/-- The changes that operations are made of. -/
structure Preserved (P : Clock → Channel → Prop) : Prop where
  advance : ∀ k n c, P k c → P (k.advance n) c
  expire : ∀ k c, P k c → P k (c.expire k.now).2
  read : ∀ k c, P k c → P k (c.read k).2
  latchCount : ∀ k c, P k c → P k (c.latchCount k)
  latchStatus : ∀ k c, P k c → P k (c.latchStatus k)
  program : ∀ k c control access, P k c → P k (c.program control access)
  write : ∀ k c value, P k c → P k (c.write k value).2
  watch : ∀ k c watcher, P k c → P k { c with watcher }
  stop : ∀ k c, P k c → P k { c with armed := false, watcher := none }

variable {P : Clock → Channel → Prop} {k : Clock} {c : Channel} {s : Setting}

theorem Preserved.takeControl (hP : Preserved P) (value : UInt8) (h : P k c) :
    P k (takeControl i k value c) := by
  unfold IntervalTimer.takeControl
  cases channelOf? (value >>> 6) with
  | none =>
    have hcount : P k (if Byte.bit value 5 then c else c.latchCount k) := by
      split
      · exact h
      · exact hP.latchCount k c h
    dsimp only
    split
    · split
      · exact hcount
      · exact hP.latchStatus k _ hcount
    · exact h
  | some j =>
    dsimp only
    split
    · cases ByteAccess.ofBits? (value >>> 4) with
      | none => exact hP.latchCount k c h
      | some access => exact hP.program k c value access h
    · exact h

theorem Preserved.next (hP : Preserved P) (op : Op) (h : P k c) : P k (c.next i k op) := by
  cases op with
  | advance n | session guest controller => exact h
  | tick => exact hP.expire k c h
  | read port =>
    simp only [Channel.next]
    cases dataPort? port with
    | none => exact h
    | some j =>
      dsimp only
      split
      · exact hP.read k _ (hP.expire k c h)
      · exact hP.expire k c h
  | write port value =>
    simp only [Channel.next]
    split
    · exact hP.takeControl value h
    · split
      · exact hP.write k c value h
      · exact h
  | watch n watcher =>
    simp only [Channel.next]
    split
    · exact hP.watch k c watcher h
    · exact h
  | stop => exact hP.stop k c h

namespace Setting

theorem preserved_step (hP : Preserved P) (h : P s.clock (s.channel i)) (op : Op) :
    P (s.step op).clock ((s.step op).channel i) := by
  rw [channel_step, clock_step]
  have hnext := hP.next (i := i) op h
  cases op with
  | advance n => exact hP.advance s.clock n _ hnext
  | tick | read port | write port value | watch n watcher | stop | session guest controller =>
    exact hnext

theorem preserved_run (hP : Preserved P) (h : P s.clock (s.channel i)) (ops : List Op) :
    P (s.run ops).clock ((s.run ops).channel i) := by
  induction ops generalizing s with
  | nil => exact h
  | cons op ops ih => exact ih (preserved_step hP h op)

/-- What holds of a fresh channel and is preserved holds of every channel. -/
theorem Reachable.induction (hP : Preserved P) (h₀ : ∀ k, P k {}) (h : s.Reachable) (i : Fin 3) :
    P s.clock (s.channel i) := by
  obtain ⟨b, ops, rfl⟩ := h
  refine preserved_run hP ?_ ops
  have hfresh : initial.channel i = {} := by simp [initial, IntervalTimer.channel]
  show P b.clock (initial.channel i)
  rw [hfresh]
  exact h₀ b.clock

end Setting
end IntervalTimer
end RealModeMonitor
