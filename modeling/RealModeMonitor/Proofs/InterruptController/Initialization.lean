import RealModeMonitor.Proofs.InterruptController.Sequence

/-!
# A chip ends up as it was programmed

An initialisation is a sequence of bytes to one chip: the first command word to its command port,
the others to its data port, as many as the first one calls for. They need not come one right after
the other. Between them the guest may read any port, program the other chip, raise lines and take
interrupts.

**Interleaving.** Requests and services aside, what becomes of a chip depends on the bytes written
to it alone (`settings_run`). A read could come between only where a register was chosen for it
(`Chip.Steady`), and the first byte of a sequence takes that choice back. So a sequence is worked
out as if nothing came between (`Chip.Begun.initialized`).

Main result: `initialized_as_programmed`.
-/

namespace RealModeMonitor

/-! ## Command words -/

/-- The command words of an initialisation. Of the last two only those that the first one calls
for are written. -/
structure Initialization where
  icw1 : UInt8
  icw2 : UInt8
  icw3 : UInt8
  icw4 : UInt8
  begins : Byte.bit icw1 4 = true := by decide

namespace Initialization

def single (w : Initialization) : Bool := Byte.bit w.icw1 1

def wantsIcw4 (w : Initialization) : Bool := Byte.bit w.icw1 0

/-- The last word, if there is one. -/
def mode (w : Initialization) : List UInt8 := if w.wantsIcw4 then [w.icw4] else []

/-- The words after the first one, in order. -/
def later (w : Initialization) : List UInt8 :=
  w.icw2 :: if w.single then w.mode else w.icw3 :: w.mode

/-- The same as bytes to the data port. -/
def laterBytes (w : Initialization) : List (Bool × UInt8) := w.later.map (Prod.mk false)

/-- What the first word asks for and a chip cannot do. -/
def unsupportedTrigger (w : Initialization) : List DeviceError :=
  if Byte.bit w.icw1 3 then [.unsupported .pic "level triggered mode" w.icw1] else []

/-- What the last word asks for and a chip cannot do. -/
def unsupportedMode (w : Initialization) : List DeviceError :=
  if w.wantsIcw4 && !Byte.bit w.icw4 0 then [.unsupported .pic "8080 mode" w.icw4] else []

end Initialization

/-! ## One chip -/

def ChipRemark.complaint? : ChipRemark → Option DeviceError
  | complaint e => some e
  | eoiForLowerPriority .. => none

namespace Chip

variable {c : Chip} {w : Initialization} {values : List UInt8}

/-- The chip as the words of an initialisation leave it. A chip that is said to be the only one is
not told its wiring, and keeps that of before. -/
structure Initialized (c : Chip) (w : Initialization) (icw3 : UInt8) : Prop where
  state : c.state = .normal
  base : c.base = w.icw2 &&& 0xF8
  icw1 : c.icw1 = w.icw1
  icw3 : c.icw3 = if w.single then icw3 else w.icw3
  icw4 : c.icw4 = if w.wantsIcw4 then w.icw4 else 0
  imr : c.imr = 0

/-- What the chip has to say about a byte written to it. -/
def remark (c : Chip) (command : Bool) (value : UInt8) : Option ChipRemark :=
  (if command then c.writeCommand value else c.writeData value).2

/-- The chip after bytes written to its data port. -/
def writeAll (c : Chip) : List UInt8 → Chip
  | [] => c
  | value :: values => (c.write false value).writeAll values

/-- What the chip cannot do of what these bytes ask for. -/
def complaints (c : Chip) : List UInt8 → List DeviceError
  | [] => []
  | value :: values =>
    ((c.remark false value).bind ChipRemark.complaint?).toList ++
      (c.write false value).complaints values

theorem writeAll_append (c : Chip) (values values' : List UInt8) :
    c.writeAll (values ++ values') = (c.writeAll values).writeAll values' := by
  induction values generalizing c with
  | nil => rfl
  | cons value values ih => exact ih (c.write false value)

theorem complaints_append (c : Chip) (values values' : List UInt8) :
    c.complaints (values ++ values') =
      c.complaints values ++ (c.writeAll values).complaints values' := by
  induction values generalizing c with
  | nil => rfl
  | cons value values ih => simp [complaints, writeAll, ih]

/-- No register was chosen for the next read, so that a read changes nothing. -/
def Steady (c : Chip) : Prop := c.state ≠ .readIsr ∧ c.state ≠ .readIrr

/-! ### Data bytes -/

theorem write_waitIcw2 (h : c.state = .waitIcw2) (value : UInt8) :
    c.write false value =
      { c with
        base := value &&& 0xF8
        icw4 := if c.wantsIcw4 then c.icw4 else 0
        state := if c.single then c.afterWiring else .waitIcw3 } := by
  simp [write, writeData, continueSequence, h, ChipState.isInitializing]

theorem write_waitIcw3 (h : c.state = .waitIcw3) (value : UInt8) :
    c.write false value = { c with icw3 := value, state := c.afterWiring } := by
  simp [write, writeData, continueSequence, h, ChipState.isInitializing]

theorem write_waitIcw4 (h : c.state = .waitIcw4) (value : UInt8) :
    c.write false value = { c with icw4 := value, state := .normal } := by
  simp [write, writeData, continueSequence, h, ChipState.isInitializing]

theorem write_operational (h : c.state.isInitializing = false) (value : UInt8) :
    c.write false value = { c with imr := value } := by
  simp [write, writeData, h]

/-- Only the last word can ask for what a chip lacks. -/
theorem remark_false (c : Chip) (value : UInt8) :
    c.remark false value =
      if c.state = .waitIcw4 ∧ Byte.bit value 0 = false then
        some (.complaint (.unsupported .pic "8080 mode" value))
      else none := by
  cases hstate : c.state <;>
    simp [remark, writeData, continueSequence, hstate, ChipState.isInitializing]
  cases Byte.bit value 0 <;> rfl

theorem Steady.readCommand (h : c.Steady) : c.readCommand.2 = c := by
  unfold Chip.readCommand
  split
  next hstate => exact absurd hstate h.1
  next hstate => exact absurd hstate h.2
  all_goals rfl

theorem steady_afterWiring (c : Chip) : c.afterWiring ≠ .readIsr ∧ c.afterWiring ≠ .readIrr := by
  unfold afterWiring
  split <;> exact ⟨nofun, nofun⟩

/-- A data byte chooses no register for reading. -/
theorem Steady.write (h : c.Steady) (value : UInt8) : (c.write false value).Steady := by
  cases hstate : c.state with
  | waitIcw2 =>
    rw [write_waitIcw2 hstate]
    unfold Steady
    dsimp only
    split
    · exact c.steady_afterWiring
    · exact ⟨nofun, nofun⟩
  | waitIcw3 =>
    rw [write_waitIcw3 hstate]
    exact c.steady_afterWiring
  | waitIcw4 =>
    rw [write_waitIcw4 hstate]
    exact ⟨nofun, nofun⟩
  | normal | readIsr | readIrr =>
    rw [write_operational (by rw [hstate]; rfl)]
    exact h

/-! ### A sequence without interruption -/

/-- The words that the chip still waits for, as its state tells. -/
def awaited (c : Chip) (w : Initialization) : List UInt8 :=
  match c.state with
  | .waitIcw2 => w.later
  | .waitIcw3 => w.icw3 :: w.mode
  | .waitIcw4 => [w.icw4]
  | .normal | .readIsr | .readIrr => []

/-- A chip is being initialised as long as it waits for a word. -/
theorem isInitializing_of_awaited (h : c.awaited w ≠ []) : c.state.isInitializing = true := by
  unfold awaited at h
  cases hstate : c.state with
  | waitIcw2 | waitIcw3 | waitIcw4 => rfl
  | normal | readIsr | readIrr => exact absurd (by rw [hstate]) h

theorem awaited_of_afterWiring (hicw1 : c.icw1 = w.icw1) (hstate : c.state = c.afterWiring) :
    c.awaited w = w.mode := by
  have hwants : c.wantsIcw4 = w.wantsIcw4 := congrArg (Byte.bit · 0) hicw1
  rw [awaited, hstate, afterWiring, hwants, Initialization.mode]
  cases w.wantsIcw4 <;> rfl

/-- Each word brings the chip to the next one. -/
theorem awaited_write (hicw1 : c.icw1 = w.icw1) {value : UInt8}
    (h : c.awaited w = value :: values) :
    (c.write false value).icw1 = w.icw1 ∧ (c.write false value).awaited w = values := by
  unfold awaited at h
  cases hstate : c.state with
  | waitIcw2 =>
    rw [hstate] at h
    obtain ⟨rfl, rfl⟩ := List.cons.inj h
    have hsingle : c.single = w.single := congrArg (Byte.bit · 1) hicw1
    rw [write_waitIcw2 hstate, hsingle]
    refine ⟨hicw1, ?_⟩
    cases w.single with
    | true => exact awaited_of_afterWiring hicw1 rfl
    | false => rfl
  | waitIcw3 =>
    rw [hstate] at h
    obtain ⟨rfl, rfl⟩ := List.cons.inj h
    rw [write_waitIcw3 hstate]
    exact ⟨hicw1, awaited_of_afterWiring hicw1 rfl⟩
  | waitIcw4 =>
    rw [hstate] at h
    obtain ⟨rfl, rfl⟩ := List.cons.inj h
    rw [write_waitIcw4 hstate]
    exact ⟨hicw1, rfl⟩
  | normal | readIsr | readIrr =>
    rw [hstate] at h
    cases h

theorem awaited_writeAll (hicw1 : c.icw1 = w.icw1) {rest : List UInt8}
    (h : c.awaited w = values ++ rest) : (c.writeAll values).awaited w = rest := by
  induction values generalizing c with
  | nil => exact h
  | cons value values ih =>
    obtain ⟨hicw1', hawaited⟩ := awaited_write hicw1 h
    exact ih hicw1' hawaited

/-- The chip waits for all words but the first one. -/
structure Begun (c : Chip) (w : Initialization) : Prop where
  state : c.state = .waitIcw2
  icw1 : c.icw1 = w.icw1
  imr : c.imr = 0

theorem begun_write (c : Chip) (w : Initialization) : (c.write true w.icw1).Begun w := by
  rw [write, if_pos rfl, writeCommand, if_pos w.begins]
  exact ⟨rfl, rfl, rfl⟩

theorem Begun.steady (h : c.Begun w) : c.Steady := by
  rw [Steady, h.state]
  exact ⟨nofun, nofun⟩

/-- The wiring of before is kept until the chip is told otherwise. -/
theorem icw3_begin (c : Chip) (w : Initialization) : (c.write true w.icw1).icw3 = c.icw3 := by
  rw [write, if_pos rfl, writeCommand, if_pos w.begins]
  rfl

theorem complaint_begin (c : Chip) (w : Initialization) :
    ((c.remark true w.icw1).bind ChipRemark.complaint?).toList = w.unsupportedTrigger := by
  rw [remark, if_pos rfl, writeCommand, if_pos w.begins, Initialization.unsupportedTrigger]
  cases htrigger : Byte.bit w.icw1 3 <;> simp only [beginSequence, htrigger] <;> rfl

theorem Begun.initializing (h : c.Begun w) (hsofar : values <+: w.later)
    (hpart : values ≠ w.later) : (c.writeAll values).state.isInitializing = true := by
  obtain ⟨rest, hrest⟩ := hsofar
  have hawaited : c.awaited w = values ++ rest := by rw [awaited, h.state, hrest]
  refine isInitializing_of_awaited (w := w) ?_
  rw [awaited_writeAll h.icw1 hawaited]
  rintro rfl
  exact hpart (by rwa [List.append_nil] at hrest)

/-- The chip waits for the last word, if there is one. -/
structure Wired (c : Chip) (w : Initialization) (icw3 : UInt8) : Prop where
  state : c.state = c.afterWiring
  base : c.base = w.icw2 &&& 0xF8
  icw1 : c.icw1 = w.icw1
  icw3 : c.icw3 = if w.single then icw3 else w.icw3
  icw4 : w.wantsIcw4 = false → c.icw4 = 0
  imr : c.imr = 0

/-- The second word and, of a chip that is not alone, the third one. -/
theorem Begun.wired (h : c.Begun w) :
    ∃ values, w.later = values ++ w.mode ∧ (c.writeAll values).Wired w c.icw3 ∧
      c.complaints values = [] := by
  have hsingle : c.single = w.single := congrArg (Byte.bit · 1) h.icw1
  have hwants : c.wantsIcw4 = w.wantsIcw4 := congrArg (Byte.bit · 0) h.icw1
  have hsecond : c.remark false w.icw2 = none := by simp [remark_false, h.state]
  cases hs : w.single with
  | true =>
    refine ⟨[w.icw2], by simp [Initialization.later, hs], ?_, by simp [complaints, hsecond]⟩
    rw [writeAll, writeAll, write_waitIcw2 h.state, hsingle, hs]
    exact ⟨rfl, rfl, h.icw1, by rw [hs]; rfl, fun hnone => by simp [hwants, hnone], h.imr⟩
  | false =>
    have hthird : (c.write false w.icw2).state = .waitIcw3 := by
      simp [write_waitIcw2 h.state, hsingle, hs]
    refine ⟨[w.icw2, w.icw3], by simp [Initialization.later, hs], ?_, by
      simp [complaints, hsecond, remark_false, hthird]⟩
    rw [writeAll, writeAll, writeAll, write_waitIcw3 hthird, write_waitIcw2 h.state]
    exact ⟨rfl, rfl, h.icw1, by rw [hs]; rfl, fun hnone => by simp [hwants, hnone], h.imr⟩

theorem Wired.initialized {icw3 : UInt8} (h : c.Wired w icw3) :
    (c.writeAll w.mode).Initialized w icw3 ∧ c.complaints w.mode = w.unsupportedMode := by
  have hwants : c.wantsIcw4 = w.wantsIcw4 := congrArg (Byte.bit · 0) h.icw1
  have hstate := h.state
  rw [afterWiring, hwants] at hstate
  rw [Initialization.mode, Initialization.unsupportedMode]
  cases hw : w.wantsIcw4 with
  | true =>
    rw [hw, if_pos rfl] at hstate
    rw [if_pos rfl]
    constructor
    · rw [writeAll, writeAll, write_waitIcw4 hstate]
      exact ⟨rfl, h.base, h.icw1, h.icw3, by rw [hw]; rfl, h.imr⟩
    · cases hmode : Byte.bit w.icw4 0 <;>
        simp [complaints, remark_false, hstate, hmode, ChipRemark.complaint?]
  | false =>
    rw [hw, if_neg Bool.false_ne_true] at hstate
    exact ⟨⟨hstate, h.base, h.icw1, h.icw3, by rw [hw]; exact h.icw4 hw, h.imr⟩, rfl⟩

/-- **A sequence without interruption.** -/
theorem Begun.initialized (h : c.Begun w) :
    (c.writeAll w.later).Initialized w c.icw3 ∧ c.complaints w.later = w.unsupportedMode := by
  obtain ⟨values, hlater, hwired, hnone⟩ := h.wired
  rw [hlater, writeAll_append, complaints_append, hnone]
  exact hwired.initialized

/-! ### Requests and services have no part in it -/

theorem settings_write (c : Chip) (value : UInt8) :
    (c.write false value).settings = c.settings.write false value := by
  obtain ⟨irr, isr, imr, base, icw1, icw3, icw4, state⟩ := c
  cases state <;> rfl

theorem Begun.settings (h : c.Begun w) : c.settings.Begun w := ⟨h.state, h.icw1, h.imr⟩

theorem Initialized.of_settings {icw3 : UInt8} (h : c.settings.Initialized w icw3) :
    c.Initialized w icw3 :=
  ⟨h.state, h.base, h.icw1, h.icw3, h.icw4, h.imr⟩

end Chip

/-! ## The pair -/

/-- What is told to be missing. -/
def Note.complaint? : Note → Option DeviceError
  | .diagnostic (.deviceComplaint _ e) => some e
  | _ => none

def Traced.complaints {α : Type} (x : Traced α) : List DeviceError :=
  x.notes.toList.filterMap Note.complaint?

@[simp] theorem Traced.complaints_bind {α β : Type} (x : Traced α) (f : α → Traced β) :
    (x >>= f).complaints = x.complaints ++ (f x.val).complaints := by
  simp [complaints]

namespace InterruptController

variable {c : InterruptController} {side : Line.Side} {op : Op} {ops : List Op} {command : Bool}
  {value : UInt8} {values : List UInt8} {w : Initialization}

/-- What a write to a port is to a chip: the byte, and whether it is to the command port. -/
def byteAt? (side : Line.Side) (port : UInt16) (value : UInt8) : Option (Bool × UInt8) :=
  match decode? port with
  | some (written, command) => if written = side then some (command, value) else none
  | none => none

/-- The byte that an operation writes to a chip, and whether to its command port. -/
def Op.byteTo? (side : Line.Side) : Op → Option (Bool × UInt8)
  | .write _ port value | .writeAndDeliver _ port value _ => byteAt? side port value
  | .read _ | .raise .. | .deliver .. => none

/-- The bytes that operations write to a chip. -/
def bytesTo (side : Line.Side) (ops : List Op) : List (Bool × UInt8) :=
  ops.filterMap (Op.byteTo? side)

/-- What is told to be missing during an operation. -/
def complaintsOf (c : InterruptController) : Op → List DeviceError
  | .write vm port value => (c.writePort vm port value).complaints
  | .read _ => []
  | .writeAndDeliver vm port value g => (c.writeAndDeliver vm port value g).complaints
  | .raise vm number g => (c.raise vm number g).complaints
  | .deliver vm g => (c.deliver vm g).complaints

/-- What is told to be missing as bytes are written to a chip. -/
def complaintsAbout (c : InterruptController) (side : Line.Side) : List Op → List DeviceError
  | [] => []
  | op :: ops =>
    (if (op.byteTo? side).isSome then c.complaintsOf op else []) ++
      (c.step op).complaintsAbout side ops

/-! ### One operation -/

theorem settings_step (c : InterruptController) (op : Op) (side : Line.Side) :
    ((c.step op).chip side).settings = ((c.changed op).chip side).settings := by
  rcases c.step_cases op with ⟨hstep, -⟩ | ⟨line, htakes⟩
  · rw [hstep]
  · rw [htakes.step, ((c.changed op).acknowledged line).settings]

theorem byteAt?_eq_some {port : UInt16} {value' : UInt8}
    (h : byteAt? side port value' = some (command, value)) :
    decode? port = some (side, command) ∧ value' = value := by
  unfold byteAt? at h
  split at h
  next written command' hport =>
    obtain ⟨rfl, hbyte⟩ := Option.ite_none_right_eq_some.1 h
    obtain ⟨rfl, rfl⟩ := Prod.mk.inj (Option.some.inj hbyte)
    exact ⟨hport, rfl⟩
  next => cases h

theorem byteAt?_eq_none {port : UInt16} (h : byteAt? side port value = none) :
    ∀ command, decode? port ≠ some (side, command) := by
  rintro command hport
  simp [byteAt?, hport] at h

theorem Op.byteTo?_eq_some (h : op.byteTo? side = some (command, value)) :
    ∃ vm port, decode? port = some (side, command) ∧
      (op = .write vm port value ∨ ∃ g, op = .writeAndDeliver vm port value g) := by
  cases op with
  | write vm port value' =>
    obtain ⟨hport, rfl⟩ := byteAt?_eq_some h
    exact ⟨vm, port, hport, .inl rfl⟩
  | writeAndDeliver vm port value' g =>
    obtain ⟨hport, rfl⟩ := byteAt?_eq_some h
    exact ⟨vm, port, hport, .inr ⟨g, rfl⟩⟩
  | read port => cases h
  | raise vm number g => cases h
  | deliver vm g => cases h

/-- A byte to a chip does to it what it would do alone. -/
theorem settings_step_of_byteTo? (h : op.byteTo? side = some (command, value)) :
    ((c.step op).chip side).settings = ((c.chip side).write command value).settings := by
  obtain ⟨vm, port, hport, hop⟩ := Op.byteTo?_eq_some h
  have hchanged : c.changed op = (c.writePort vm port value).val := by
    rcases hop with rfl | ⟨g, rfl⟩ <;> rfl
  rw [settings_step, hchanged, val_writePort, hport]
  dsimp only
  rw [chip_setChip, if_pos rfl]

/-- Nothing else changes how a chip is programmed. -/
theorem settings_step_of_byteTo?_none (h : op.byteTo? side = none)
    (hsteady : (c.chip side).Steady) :
    ((c.step op).chip side).settings = (c.chip side).settings := by
  rw [settings_step]
  cases op with
  | write vm port value' | writeAndDeliver vm port value' g =>
    rw [changed, val_writePort]
    rcases hport : decode? port with _ | ⟨written, command'⟩
    · rfl
    · have hother : written ≠ side := by
        rintro rfl
        exact byteAt?_eq_none h command' hport
      dsimp only
      rw [chip_setChip, if_neg hother]
  | read port =>
    rw [changed, readPort]
    rcases decode? port with _ | ⟨read, _ | _⟩
    · rfl
    · rfl
    · dsimp only
      rw [chip_setChip]
      split
      next hside =>
        subst hside
        rw [hsteady.readCommand]
      next => rfl
  | raise vm number g =>
    rw [changed]
    split
    next line =>
      rw [latch?]
      split
      · rfl
      · rw [Option.getD_some, latch, chip_setChip]
        split
        next hside =>
          subst hside
          rfl
        next => rfl
    next => rfl
  | deliver vm g => rfl

theorem complaints_deliver (c : InterruptController) (vm : VmId) (g : Guest) :
    (c.deliver vm g).complaints = [] := by
  have hinject : ∀ vector, (g.inject vector).complaints = [] := by
    intro vector
    unfold Guest.inject
    dsimp only
    split <;> rfl
  unfold deliver
  split
  · rfl
  · rw [Traced.complaints_bind, hinject]
    split <;> rfl

/-- What is told of a byte is what the chip has to say about it. -/
theorem complaintsOf_of_byteTo? (h : op.byteTo? side = some (command, value)) :
    c.complaintsOf op =
      (((c.chip side).remark command value).bind ChipRemark.complaint?).toList := by
  obtain ⟨vm, port, hport, hop⟩ := Op.byteTo?_eq_some h
  have hwrite : (c.writePort vm port value).complaints =
      (((c.chip side).remark command value).bind ChipRemark.complaint?).toList := by
    simp only [writePort, hport, Chip.remark]
    generalize (if command then (c.chip side).writeCommand value
      else (c.chip side).writeData value) = written
    obtain ⟨after, _ | _ | _⟩ := written <;> dsimp only <;> split <;> rfl
  rcases hop with rfl | ⟨g, rfl⟩
  · exact hwrite
  · rw [complaintsOf, writeAndDeliver, Traced.complaints_bind, hwrite, Traced.complaints_bind,
      complaints_deliver]
    dsimp only
    split <;> exact List.append_nil _

/-! ### Runs -/

/-- **A chip hears only the bytes written to it.** What comes between data bytes has no part in how
it is programmed, nor in what is told of it. -/
theorem settings_run (hsteady : (c.chip side).Steady)
    (hbytes : bytesTo side ops = values.map (Prod.mk false)) :
    ((c.run ops).chip side).settings = (c.chip side).settings.writeAll values ∧
      c.complaintsAbout side ops = (c.chip side).settings.complaints values := by
  induction ops generalizing c values with
  | nil =>
    obtain rfl : values = [] := by simpa [bytesTo] using hbytes
    exact ⟨rfl, rfl⟩
  | cons op ops ih =>
    rw [complaintsAbout]
    cases hbyte : op.byteTo? side with
    | none =>
      have hsettings := settings_step_of_byteTo?_none hbyte hsteady
      have hsteady' : ((c.step op).chip side).settings.Steady := by rwa [hsettings]
      rw [bytesTo, List.filterMap_cons_none hbyte] at hbytes
      rw [← hsettings]
      exact ih hsteady' hbytes
    | some byte =>
      rw [bytesTo, List.filterMap_cons_some hbyte] at hbytes
      obtain ⟨value, values, rfl, rfl, hrest⟩ := List.map_eq_cons_iff.1 hbytes.symm
      have hsettings :
          ((c.step op).chip side).settings = (c.chip side).settings.write false value :=
        (settings_step_of_byteTo? hbyte).trans (Chip.settings_write _ value)
      have hsteady' : ((c.step op).chip side).settings.Steady := by
        rw [hsettings]
        exact Chip.Steady.write (c := (c.chip side).settings) hsteady value
      obtain ⟨hrun, hcomplaints⟩ := ih hsteady' hrest.symm
      rw [hsettings] at hrun hcomplaints
      rw [complaintsOf_of_byteTo? hbyte, hcomplaints, Chip.complaints, Chip.remark_false,
        Chip.remark_false]
      exact ⟨hrun, rfl⟩

/-- **A chip ends up as it was programmed.** Once the first word of an initialisation was written to
a chip in any state, and as long as the data bytes written to it are the later words in order, it is
being initialised until the last of them, and then programmed as they say. That it is not edge
triggered, or not in the mode it knows, is told and changes nothing else. -/
theorem initialized_as_programmed (c : InterruptController) (side : Line.Side) (w : Initialization)
    {first : Op} {ops : List Op} (hfirst : first.byteTo? side = some (true, w.icw1))
    (hlater : bytesTo side ops <+: w.laterBytes) :
    let after := (c.run (first :: ops)).chip side
    (bytesTo side ops ≠ w.laterBytes → after.state.isInitializing = true) ∧
    (bytesTo side ops = w.laterBytes →
      after.Initialized w (c.chip side).icw3 ∧
      c.complaintsAbout side (first :: ops) = w.unsupportedTrigger ++ w.unsupportedMode) := by
  intro after
  let c₁ := ((c.chip side).write true w.icw1).settings
  have hbegun : c₁.Begun w := ((c.chip side).begun_write w).settings
  have hfirst₁ : ((c.step first).chip side).settings = c₁ := settings_step_of_byteTo? hfirst
  have hsteady : ((c.step first).chip side).settings.Steady := by
    rw [hfirst₁]
    exact hbegun.steady
  obtain ⟨values, hvalues, hbytes⟩ := List.prefix_map_iff.1 hlater
  obtain ⟨hrun, hcomplaints⟩ := settings_run hsteady hbytes
  rw [hfirst₁] at hrun hcomplaints
  have hall : bytesTo side ops = w.laterBytes ↔ values = w.later := by
    rw [hbytes, Initialization.laterBytes, List.map_inj_right (fun _ _ h => (Prod.mk.inj h).2)]
  rw [ne_eq, hall]
  constructor
  · intro hpart
    have hinit := hbegun.initializing hvalues hpart
    rwa [← hrun] at hinit
  · rintro rfl
    obtain ⟨hinit, hmode⟩ := hbegun.initialized
    constructor
    · rw [← hrun] at hinit
      have hicw3 : c₁.icw3 = (c.chip side).icw3 := (c.chip side).icw3_begin w
      rw [← hicw3]
      exact hinit.of_settings
    · rw [complaintsAbout, hfirst, hcomplaints, hmode, complaintsOf_of_byteTo? hfirst,
        Chip.complaint_begin]
      rfl

/-- A sequence of the slave that begins anew, with a line of it raised and taken in between. -/
theorem initialized_anew :
    let vm : VmId := ⟨0, 0⟩
    let guest : Guest :=
      { frame := { ss := 0x1000, sp := 0x8000, flags := 0x202 }, memory := .blank 0x110000 }
    let c := initial.run [.write vm slaveCommand 0x11, .write vm slaveData 0x40]
    let first : Op := .writeAndDeliver vm slaveCommand 0x19 guest
    let ops : List Op :=
      [.raise vm 8 guest, .write vm slaveData 0x2F, .read slaveCommand,
        .write vm masterCommand 0x0B, .writeAndDeliver vm slaveData 0x02 guest,
        .deliver vm guest, .write vm slaveData 0x00]
    let after := (c.run (first :: ops)).slave
    after.state = .normal ∧ after.base = 0x28 ∧ after.icw3 = 0x02 ∧
      c.complaintsAbout .slave (first :: ops) =
        [.unsupported .pic "level triggered mode" 0x19, .unsupported .pic "8080 mode" 0x00] := by
  intro vm guest c first ops after
  let w : Initialization := { icw1 := 0x19, icw2 := 0x2F, icw3 := 0x02, icw4 := 0x00 }
  have hfirst : first.byteTo? .slave = some (true, w.icw1) := rfl
  have hlater : bytesTo .slave ops = w.laterBytes := by decide
  have hsofar : bytesTo .slave ops <+: w.laterBytes := by decide
  obtain ⟨-, hall⟩ := initialized_as_programmed c .slave w hfirst hsofar
  obtain ⟨hinit, hcomplaints⟩ := hall hlater
  exact ⟨hinit.state, hinit.base.trans (by decide), hinit.icw3.trans (by decide),
    hcomplaints.trans (by decide)⟩

end InterruptController
end RealModeMonitor
