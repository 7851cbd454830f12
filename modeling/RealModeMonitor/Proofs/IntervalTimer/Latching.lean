import RealModeMonitor.Proofs.IntervalTimer.Schedule

/-!
# Two bytes that belong together

A count and a reload have two bytes, and both go through a port of one byte. Whatever happens
between the two, they belong together.

**Reading.** What is latched is kept for reading: the status if one is latched, then the bytes of
the count. `Channel.Offers bytes c` says that the channel has these bytes to give before it counts
again. A read takes the first of them (`Offers.read`), and nothing else that leaves the latches
alone takes a byte or adds one (`Offers.next`); so the next reads give them in order
(`answers_eq`).

**Holding.** While one byte of two is transferred the channel is held, and no operation changes the
expirations of a channel that is (`expirations_next`), because being brought up to date is the one
thing that does (`expirations_next_eq`). A half-read count is held up to the second
read, a half-written reload up to the second write (`pendingLow_next`).

Main result: `two_byte_transfers`.
-/

namespace RealModeMonitor

/-! ## Control words -/

namespace IntervalTimer

/-- Whether a control word programs channel `i`. -/
def programs (i : Fin 3) (value : UInt8) : Bool :=
  channelOf? (value >>> 6) = some i && (ByteAccess.ofBits? (value >>> 4)).isSome

/-- Whether a control word has the count of channel `i` latched: a latch command for it, or a
read-back of its count. -/
def latchesCount (i : Fin 3) (value : UInt8) : Bool :=
  match channelOf? (value >>> 6) with
  | some j => j = i && (ByteAccess.ofBits? (value >>> 4)).isNone
  | none => Byte.bit value (i + 1) && !Byte.bit value 5

/-- Whether a control word has the status of channel `i` latched: a read-back of its status. -/
def latchesStatus (i : Fin 3) (value : UInt8) : Bool :=
  (channelOf? (value >>> 6)).isNone && Byte.bit value (i + 1) && !Byte.bit value 4

end IntervalTimer

namespace Channel

open IntervalTimer

variable {c : Channel} {k : Clock} {i : Fin 3} {value : UInt8} {op : Op}

/-! ## Latches -/

theorem countLatch_latchCount (c : Channel) (k : Clock) :
    (c.latchCount k).countLatch = some (c.countLatch.getD (c.count k)) := by
  unfold latchCount
  split
  next n h => rw [h, Option.getD_some]
  next h => rw [h, Option.getD_none]

theorem statusLatch_latchCount (c : Channel) (k : Clock) :
    (c.latchCount k).statusLatch = c.statusLatch := by
  unfold latchCount
  split <;> rfl

theorem status_latchCount (c : Channel) (k : Clock) : (c.latchCount k).status k = c.status k := by
  unfold latchCount
  split <;> rfl

theorem statusLatch_latchStatus (c : Channel) (k : Clock) :
    (c.latchStatus k).statusLatch = some (c.statusLatch.getD (c.status k)) := by
  unfold latchStatus
  split
  next st h => rw [h, Option.getD_some]
  next h => rw [h, Option.getD_none]

theorem countLatch_latchStatus (c : Channel) (k : Clock) :
    (c.latchStatus k).countLatch = c.countLatch := by
  unfold latchStatus
  split <;> rfl

theorem countLatch_fired (c : Channel) (n : Nat) : (c.fired n).countLatch = c.countLatch := by
  unfold fired
  split <;> rfl

theorem statusLatch_fired (c : Channel) (n : Nat) : (c.fired n).statusLatch = c.statusLatch := by
  unfold fired
  split <;> rfl

/-- **What a control word does** to a channel: it programs it, or latches its count, then its
status, or does nothing to it. -/
theorem takeControl_eq (i : Fin 3) (k : Clock) (value : UInt8) (c : Channel) :
    (∃ access, takeControl i k value c = c.program value access ∧ programs i value = true ∧
      latchesStatus i value = false) ∨
    (programs i value = false ∧ takeControl i k value c =
      let c := if latchesCount i value then c.latchCount k else c
      if latchesStatus i value then c.latchStatus k else c) := by
  unfold takeControl programs latchesCount latchesStatus
  cases hchannel : channelOf? (value >>> 6) with
  | none =>
    right
    refine ⟨rfl, ?_⟩
    cases Byte.bit value (i + 1) <;> cases Byte.bit value 5 <;> cases Byte.bit value 4 <;> rfl
  | some j =>
    by_cases hj : j = i
    · cases haccess : ByteAccess.ofBits? (value >>> 4) with
      | some access => exact .inl ⟨access, by simp [hj]⟩
      | none => exact .inr (by simp [hj])
    · exact .inr (by simp [hj])

/-! ## Bytes to be read -/

/-- What is latched, in the order in which a channel that transfers both bytes gives it. -/
def kept (c : Channel) : List UInt8 :=
  c.statusLatch.toList ++ c.countLatch.elim [] fun n =>
    if c.readsHigh then [Byte.highByte n] else [Byte.lowByte n, Byte.highByte n]

/-- The channel gives these bytes, the last of which belong to a count, before it counts again. -/
structure Offers (bytes : List UInt8) (c : Channel) : Prop where
  access : c.access = .lowHigh
  count : c.countLatch.isSome = true
  kept : c.kept = bytes

variable {b : UInt8} {bytes : List UInt8}

theorem Offers.fired (h : c.Offers bytes) (n : Nat) : (c.fired n).Offers bytes := by
  unfold Channel.fired
  split <;> exact ⟨h.access, h.count, h.kept⟩

theorem Offers.write (h : c.Offers bytes) : (c.write k value).2.Offers bytes := by
  unfold Channel.write
  split <;> exact ⟨h.access, h.count, h.kept⟩

/-- A count that is latched stays. -/
theorem Offers.latchCount (h : c.Offers bytes) : (c.latchCount k).Offers bytes := by
  obtain ⟨n, hn⟩ := Option.isSome_iff_exists.1 h.count
  rw [Channel.latchCount, hn]
  exact h

theorem Offers.takeControl (h : c.Offers bytes) (hprogram : programs i value = false)
    (hstatus : latchesStatus i value = false) : (takeControl i k value c).Offers bytes := by
  obtain ⟨_, -, hprogram', -⟩ | ⟨-, htake⟩ := takeControl_eq i k value c
  · rw [hprogram] at hprogram'
    cases hprogram'
  · rw [htake, hstatus, if_neg Bool.false_ne_true]
    split
    · exact h.latchCount
    · exact h

/-- A read takes the first byte. -/
theorem Offers.read (h : c.Offers (b :: bytes)) :
    (c.read k).1 = b ∧ (bytes ≠ [] → (c.read k).2.Offers bytes) := by
  obtain ⟨haccess, hcount, hkept⟩ := h
  obtain ⟨n, hn⟩ := Option.isSome_iff_exists.1 hcount
  rw [Channel.kept, hn, Option.elim_some] at hkept
  unfold Channel.read
  cases hstatus : c.statusLatch with
  | some st =>
    rw [hstatus] at hkept
    obtain ⟨rfl, rfl⟩ := List.cons.inj hkept
    exact ⟨rfl, fun _ => ⟨haccess, hcount, by simp [Channel.kept, hn]⟩⟩
  | none =>
    rw [hstatus] at hkept
    cases hhigh : c.readsHigh with
    | false =>
      obtain ⟨rfl, rfl⟩ : Byte.lowByte n = b ∧ [Byte.highByte n] = bytes := by
        simpa [hhigh] using hkept
      simp only [haccess, hn, Option.getD_some]
      exact ⟨trivial, fun _ => ⟨rfl, rfl, by simp [Channel.kept]⟩⟩
    | true =>
      obtain ⟨rfl, rfl⟩ : Byte.highByte n = b ∧ [] = bytes := by simpa [hhigh] using hkept
      simp only [haccess, hn, Option.getD_some]
      exact ⟨trivial, fun hne => absurd rfl hne⟩

/-- A channel that has one byte of a count left to give is held. -/
theorem Offers.isHeld (h : c.Offers [b]) : c.isHeld = true := by
  obtain ⟨n, hn⟩ := Option.isSome_iff_exists.1 h.count
  have hkept := h.kept
  rw [Channel.kept, hn, Option.elim_some] at hkept
  have hhigh : c.readsHigh = true := by
    cases hhigh : c.readsHigh with
    | true => rfl
    | false => simpa [hhigh] using congrArg List.length hkept
  simp [Channel.isHeld, hn, hhigh]

/-- What a channel gives whose count was just latched. -/
theorem offers_latched (haccess : c.access = .lowHigh) (hcount : c.countLatch = none)
    (hstatus : c.statusLatch = none) (hlatches : latchesCount i value = true) :
    (takeControl i k value c).Offers
      ((if latchesStatus i value then [c.status k] else []) ++
        [Byte.lowByte (c.count k), Byte.highByte (c.count k)]) := by
  obtain ⟨_, -, hprograms, -⟩ | ⟨-, htake⟩ := takeControl_eq i k value c
  · unfold programs at hprograms
    unfold latchesCount at hlatches
    cases hchannel : channelOf? (value >>> 6) <;> simp_all
  · have hlatched :
        c.latchCount k = { c with countLatch := some (c.count k), readsHigh := false } := by
      rw [latchCount, hcount]
    rw [htake, hlatches, if_pos rfl, hlatched]
    cases latchesStatus i value with
    | false => exact ⟨haccess, rfl, by simp [kept, hstatus]⟩
    | true =>
      have hboth : { c with countLatch := some (c.count k), readsHigh := false }.latchStatus k =
          { c with
            countLatch := some (c.count k)
            readsHigh := false
            statusLatch := some (c.status k) } := by
        simp only [latchStatus, hstatus]
        rfl
      simp only [if_true, hboth]
      exact ⟨haccess, rfl, by simp [kept]⟩

end Channel

/-! ## Operations that leave a transfer alone -/

namespace IntervalTimer

open Channel

variable {i : Fin 3} {k : Clock} {c : Channel} {op : Op} {b : UInt8} {bytes : List UInt8}

theorem sameCount_of_not_programs {value : UInt8} (h : programs i value = false) :
    c.SameCount (takeControl i k value c) := by
  refine sameCount_takeControl fun hchannel => ?_
  rw [programs, hchannel] at h
  exact Option.isNone_iff_eq_none.1 (by simpa using h)

namespace Op

/-- Whether an operation reads the data port of channel `i`. -/
def reads (i : Fin 3) : Op → Bool
  | read port => dataPort? port = some i
  | advance _ | tick | write _ _ | watch _ _ | stop | session _ _ => false

/-- Whether an operation neither programs channel `i` nor has its status latched. -/
def sparesLatches (i : Fin 3) : Op → Bool
  | write port value => port != controlPort || !(programs i value || latchesStatus i value)
  | advance _ | tick | read _ | watch _ _ | stop | session _ _ => true

/-- Whether an operation neither programs channel `i` nor writes to its data port. -/
def sparesReload (i : Fin 3) : Op → Bool
  | stop => true
  | op => op.spares i

end Op

theorem Offers.next (h : c.Offers bytes) (hspares : op.sparesLatches i = true)
    (hreads : op.reads i = false) : (c.next i k op).Offers bytes := by
  have hexpire : (c.expire k.now).2.Offers bytes := h.fired _
  cases op with
  | advance n | session guest controller => exact h
  | tick => exact hexpire
  | read port =>
    have hother : dataPort? port ≠ some i := by simpa [Op.reads] using hreads
    simp only [Channel.next]
    cases hport : dataPort? port with
    | none => exact h
    | some j =>
      have hj : j ≠ i := fun hj => hother (hj ▸ hport)
      simp only [if_neg hj]
      exact hexpire
  | write port value =>
    simp only [Channel.next]
    split
    next hport =>
      obtain ⟨hprogram, hstatus⟩ : programs i value = false ∧ latchesStatus i value = false := by
        simpa [Op.sparesLatches, hport] using hspares
      exact h.takeControl hprogram hstatus
    next =>
      split
      · exact h.write
      · exact h
  | watch n watcher =>
    simp only [Channel.next]
    split
    · exact ⟨h.access, h.count, h.kept⟩
    · exact h
  | stop => exact ⟨h.access, h.count, h.kept⟩

theorem expirations_write (c : Channel) (k : Clock) (value : UInt8) :
    (c.write k value).2.expirations = c.expirations := by
  unfold Channel.write
  split <;> rfl

/-- A channel expires where it is brought up to date, and nowhere else. -/
theorem expirations_next_eq (c : Channel) (op : Op) :
    (c.next i k op).expirations =
      c.expirations + if op.evaluates then c.firings k.now else 0 := by
  cases hspares : op.spares i with
  | true =>
    have hsame := (sameCount_next (k := k) (c := c) hspares).view
    refine (congrArg ChannelView.expirations hsame).trans ?_
    split
    · exact expirations_fired c _
    · rfl
  | false =>
    cases op with
    | advance n | tick | read port | watch n watcher | session guest controller => cases hspares
    | stop => rfl
    | write port value =>
      simp only [Channel.next]
      split
      · obtain ⟨_, htake, -⟩ | ⟨hprogram, -⟩ := takeControl_eq i k value c
        · rw [htake]
          rfl
        · exact congrArg ChannelView.expirations (sameCount_of_not_programs hprogram).view
      · split
        · exact expirations_write c k value
        · rfl

/-- **No operation** has a channel expire that is held. -/
theorem expirations_next (h : c.isHeld = true) (op : Op) :
    (c.next i k op).expirations = c.expirations := by
  have hfirings : c.firings k.now = 0 := by simp [firings, h]
  rw [expirations_next_eq, hfirings, ite_self]
  rfl

/-- A reload that is half written stays so until it is complete. -/
theorem pendingLow_next (hspares : op.sparesReload i = true) :
    (c.next i k op).pendingLow = c.pendingLow := by
  cases op with
  | stop => rfl
  | advance n | tick | read port | write port value | watch n watcher | session guest controller =>
    simp only [Op.sparesReload] at hspares
    rw [(sameCount_next hspares).pendingLow]
    split
    · exact pendingLow_fired c _
    · rfl

/-! ## Runs -/

theorem value_readPort {port : UInt16} (hport : dataPort? port = some i) (t : IntervalTimer)
    (b : Bus) :
    (t.readPort port b).val.1 = (((t.channel i).expire b.clock.now).2.read b.clock).1 := by
  simp only [readPort, hport, Traced.val_bind, Traced.val_pure, channel_runExpiry, clock_runExpiry]

namespace Setting

/-- What a read of the data port of channel `i` gives. -/
def answer? (s : Setting) (i : Fin 3) : Op → Option UInt8
  | .read port =>
    if dataPort? port = some i then some (s.timer.readPort port s.bus).val.1 else none
  | .advance _ | .tick | .write _ _ | .watch _ _ | .stop | .session _ _ => none

/-- What the reads of the data port of channel `i` give, in order. -/
def answers (i : Fin 3) : Setting → List Op → List UInt8
  | _, [] => []
  | s, op :: ops => (s.answer? i op).toList ++ answers i (s.step op) ops

variable {s : Setting} {ops : List Op}

theorem answer?_of_reads (h : op.reads i = true) :
    s.answer? i op = some (((s.channel i).expire s.clock.now).2.read s.clock).1 ∧
      (s.step op).channel i = (((s.channel i).expire s.clock.now).2.read s.clock).2 := by
  rw [channel_step]
  cases op with
  | read port =>
    have hport : dataPort? port = some i := by simpa [Op.reads] using h
    simp only [answer?, Channel.next, hport, if_true]
    exact ⟨congrArg some (value_readPort hport s.timer s.bus), trivial⟩
  | advance | tick | write | watch | stop | session => cases h

theorem answer?_of_not_reads (h : op.reads i = false) : s.answer? i op = none := by
  cases op with
  | read port =>
    have hport : dataPort? port ≠ some i := by simpa [Op.reads] using h
    rw [answer?, if_neg hport]
  | advance | tick | write | watch | stop | session => rfl

theorem answers_eq_nil (h : ops.countP (Op.reads i) = 0) : answers i s ops = [] := by
  induction ops generalizing s with
  | nil => rfl
  | cons op ops ih =>
    rw [List.countP_cons, Nat.add_eq_zero_iff] at h
    have hop : op.reads i = false := by simpa using h.2
    rw [answers, answer?_of_not_reads hop, ih h.1]
    rfl

/-- What is offered is kept until it is read. -/
theorem offers_step (h : (s.channel i).Offers bytes) (hspares : op.sparesLatches i = true)
    (hreads : op.reads i = false) : ((s.step op).channel i).Offers bytes := by
  rw [channel_step]
  exact Offers.next h hspares hreads

/-- A read of what a channel offers. -/
theorem offers_step_reads (h : (s.channel i).Offers (b :: bytes)) (hreads : op.reads i = true) :
    s.answer? i op = some b ∧ (bytes ≠ [] → ((s.step op).channel i).Offers bytes) := by
  obtain ⟨hanswer, hstep⟩ := answer?_of_reads (s := s) hreads
  obtain ⟨hvalue, hrest⟩ :=
    Channel.Offers.read (k := s.clock) (h.fired ((s.channel i).firings s.clock.now))
  rw [hanswer, hstep]
  exact ⟨congrArg some hvalue, hrest⟩

/-- **Reads give what is offered**, in order. -/
theorem answers_eq (h : (s.channel i).Offers bytes)
    (hspares : ∀ op ∈ ops, op.sparesLatches i = true)
    (hreads : ops.countP (Op.reads i) = bytes.length) : answers i s ops = bytes := by
  induction ops generalizing s bytes with
  | nil =>
    rw [answers]
    exact (List.length_eq_zero_iff.1 hreads.symm).symm
  | cons op ops ih =>
    obtain ⟨hop, hops⟩ := List.forall_mem_cons.1 hspares
    cases hread : op.reads i with
    | false =>
      rw [List.countP_cons_of_neg (by simp [hread])] at hreads
      rw [answers, answer?_of_not_reads hread, ih (offers_step h hop hread) hops hreads]
      rfl
    | true =>
      rw [List.countP_cons_of_pos hread] at hreads
      obtain ⟨b, bytes, rfl⟩ := List.exists_cons_of_length_eq_add_one hreads.symm
      obtain ⟨hanswer, hrest⟩ := offers_step_reads h hread
      have hcount : ops.countP (Op.reads i) = bytes.length := Nat.succ.inj hreads
      rw [answers, hanswer, Option.toList_some, List.singleton_append]
      refine congrArg (b :: ·) ?_
      by_cases hbytes : bytes = []
      · subst hbytes
        exact answers_eq_nil hcount
      · exact ih (hrest hbytes) hops hcount

/-- What is offered after some reads. -/
theorem offers_run (h : (s.channel i).Offers bytes)
    (hspares : ∀ op ∈ ops, op.sparesLatches i = true)
    (hreads : ops.countP (Op.reads i) < bytes.length) :
    ((s.run ops).channel i).Offers (bytes.drop (ops.countP (Op.reads i))) := by
  induction ops generalizing s bytes with
  | nil => exact h
  | cons op ops ih =>
    obtain ⟨hop, hops⟩ := List.forall_mem_cons.1 hspares
    cases hread : op.reads i with
    | false =>
      rw [List.countP_cons_of_neg (by simp [hread])] at hreads ⊢
      exact ih (offers_step h hop hread) hops hreads
    | true =>
      rw [List.countP_cons_of_pos hread] at hreads ⊢
      obtain ⟨b, bytes, rfl⟩ := List.exists_cons_of_length_pos (Nat.zero_lt_of_lt hreads)
      have hcount : ops.countP (Op.reads i) < bytes.length := Nat.lt_of_succ_lt_succ hreads
      have hbytes : bytes ≠ [] := List.ne_nil_of_length_pos (Nat.zero_lt_of_lt hcount)
      exact ih ((offers_step_reads h hread).2 hbytes) hops hcount

/-- Nothing that spares a half-written reload has its channel expire. -/
theorem expirations_run {low : UInt8} (h : (s.channel i).pendingLow = some low)
    (hspares : ∀ op ∈ ops, op.sparesReload i = true) :
    ((s.run ops).channel i).expirations = (s.channel i).expirations := by
  induction ops generalizing s with
  | nil => rfl
  | cons op ops ih =>
    obtain ⟨hop, hops⟩ := List.forall_mem_cons.1 hspares
    have hheld : (s.channel i).isHeld = true := by simp [isHeld, h]
    have hnext : ((s.step op).channel i).pendingLow = some low := by
      rw [channel_step, pendingLow_next hop, h]
    exact (ih hnext hops).trans (by rw [channel_step, expirations_next hheld])

/-- **Two bytes belong together.** The next two reads after the count of a channel was latched give
the two bytes of the count that it had then, and what happens between them has it not expire. (A
status that the same command latches is read before.) Neither does what happens after the first of
the two bytes of a reload was written. -/
theorem two_byte_transfers (haccess : (s.channel i).access = .lowHigh) :
    (∀ value ops, (s.channel i).countLatch = none → (s.channel i).statusLatch = none →
      latchesCount i value = true → (∀ op ∈ ops, op.sparesLatches i = true) →
      let latched := s.step (.write controlPort value)
      let count := (s.channel i).count s.clock
      let status := if latchesStatus i value then [(s.channel i).status s.clock] else []
      ops.countP (Op.reads i) = status.length + 2 →
      answers i latched ops = status ++ [Byte.lowByte count, Byte.highByte count] ∧
      ∀ n, (ops.take n).countP (Op.reads i) = status.length + 1 →
        ((latched.run (ops.take (n + 1))).channel i).expirations =
          ((latched.run (ops.take n)).channel i).expirations) ∧
    (∀ port low ops, dataPort? port = some i → (s.channel i).pendingLow = none →
      (∀ op ∈ ops, op.sparesReload i = true) →
      (((s.step (.write port low)).run ops).channel i).expirations =
        (s.channel i).expirations) := by
  constructor
  · intro value ops hcount hstatus hlatches hspares latched count status hreads
    have hoffers : (latched.channel i).Offers
        (status ++ [Byte.lowByte count, Byte.highByte count]) := by
      have hstep : latched.channel i = takeControl i s.clock value (s.channel i) := by
        rw [channel_step, Channel.next, if_pos rfl]
      rw [hstep]
      exact offers_latched haccess hcount hstatus hlatches
    refine ⟨answers_eq hoffers hspares (by rw [hreads, List.length_append]; rfl), fun n hn => ?_⟩
    -- One byte of the count is left, so that the channel is held.
    have hone : ((latched.run (ops.take n)).channel i).Offers [Byte.highByte count] := by
      have hbefore : ∀ op ∈ ops.take n, op.sparesLatches i = true :=
        fun op hop => hspares op (List.mem_of_mem_take hop)
      have hrun := offers_run hoffers hbefore
        (by rw [hn, List.length_append]; exact Nat.lt_succ_self _)
      rwa [hn, List.drop_length_add_append] at hrun
    by_cases hlt : n < ops.length
    · rw [List.take_succ_eq_append_getElem hlt, run_append]
      show (((latched.run (ops.take n)).step ops[n]).channel i).expirations = _
      rw [channel_step, expirations_next hone.isHeld]
    · rw [List.take_of_length_le (by omega), List.take_of_length_le (by omega)]
  · intro port low ops hport hlow hspares
    have hwritten : ((s.step (.write port low)).channel i).pendingLow = some low := by
      simp only [channel_write hport, Channel.write, haccess, hlow]
    rw [expirations_run hwritten hspares, channel_write hport, expirations_write]

/-- Channel 2 counts, and an unlatched read of it was left half done. -/
def halfRead : Setting :=
  let b : Bus := {
    vm := ⟨0, 0⟩
    clock := { hz := 1193182 }
    guest := { memory := .blank 0 }
    controller := none }
  run ⟨initial, b⟩
    [.write 0x43 0xB4, .write 0x42 10, .write 0x42 4, .advance 3, .read 0x42]

/-- The count 1031 that is latched by a read-back is read while the counter goes round, and a new
reload is half written then. -/
theorem transfers_of_half_read :
    let latched := halfRead.step (.write 0x43 0xD8)
    let ops : List Op := [.advance 4, .tick, .write 0x43 0x80, .read 0x42, .advance 2000, .tick,
      .read 0x40, .write 0x42 7, .read 0x42]
    answers 2 latched ops = [7, 4] ∧
      ((latched.run (ops.take 6)).channel 2).expirations =
        ((latched.run (ops.take 5)).channel 2).expirations ∧
      ((latched.run (ops.take 4)).channel 2).isHeld = true ∧
      (((halfRead.step (.write 0x42 7)).run
        [.advance 2000, .tick, .read 0x42, .stop]).channel 2).expirations = 0 := by
  intro latched ops
  have haccess : (halfRead.channel 2).access = .lowHigh := by decide
  obtain ⟨hread, hwrite⟩ := two_byte_transfers haccess
  obtain ⟨hanswers, hheld⟩ :=
    hread 0xD8 ops (by decide) (by decide) (by decide) (by decide) (by decide)
  exact ⟨hanswers.trans (by decide), hheld 5 (by decide), by decide,
    (hwrite 0x42 7 _ (by decide) (by decide) (by decide)).trans (by decide)⟩

end Setting
end IntervalTimer
end RealModeMonitor
