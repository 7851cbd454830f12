import RealModeMonitor.CommandLine.Run
import RealModeMonitor.Proofs.Guest.Return
import RealModeMonitor.Proofs.IntervalTimer.Batch
import RealModeMonitor.Proofs.IntervalTimer.Schedule
import RealModeMonitor.Proofs.InterruptController.Run
import RealModeMonitor.Proofs.Vm.Standard

/-!
# The guests that the program sets up

A guest of the program does nothing but take timer interrupts. It is at rest with its interrupts on
(`AtRest`), and its controllers are idle (`idleController`) but for the time between a timer
interrupt and the end of its handler (`busyController`).

**One interrupt at a time.** The first expiration of a batch is delivered at once, and those that
follow it find their line in service and are dropped (`pulses_idle`). After the end of interrupt and
the return, the guest is at rest again (`AtRest.returned`).

**Timekeeping.** Channel 0 fired as often as whole intervals have passed (`UpToDate`), so between
two looks at the timer it is due for the difference of two quotients (`upToDate_expired`).
-/

namespace RealModeMonitor.CommandLine

/-! ## Controllers -/

/-- The controllers as the program sets them up: only the timer's line is unmasked, and nothing is
requested or in service. -/
def idleController (delivered : Nat) : InterruptController where
  master := { base := 0x08, icw3 := 0x04, imr := 0xFE }
  slave := { base := 0x70, icw3 := 0x02, imr := 0xFF }
  delivered

/-- The same with the timer's line in service. -/
def busyController (delivered : Nat) : InterruptController where
  master := { base := 0x08, icw3 := 0x04, imr := 0xFE, isr := 0x01 }
  slave := { base := 0x70, icw3 := 0x02, imr := 0xFF }
  delivered

/-! ## Guests at rest -/

/-- Registers of a guest at rest: as the program loads them, with interrupts on. -/
def restFrame : Frame where
  cs := 0x1000
  ip := 0
  ss := 0x9000
  sp := 0xFFFE
  flags := 0x202

/-- Memory that holds the guest's stack, as 640 kilobytes do. -/
def stackEnd : Nat := 0xA0000

structure AtRest (size : Nat) (g : Guest) : Prop where
  frame : g.frame = restFrame
  size : g.memory.size = size
  admitted : g.admitted = true
  dying : g.dying = false
  faulted : g.faulted = false

variable {id : VmId} {size delivered : Nat} {g : Guest} {t : IntervalTimer}

theorem AtRest.resumable (h : AtRest size g) : g.isResumable = true := by
  rw [Guest.isResumable, h.admitted, h.dying]
  rfl

theorem AtRest.vif (h : AtRest size g) : g.vif = true := by
  rw [Guest.vif, h.frame]
  decide

theorem AtRest.hasRoom (h : AtRest size g) (hsize : stackEnd ≤ size) :
    g.HasRoom timerVector := by
  have hfits : ∀ a, a + 2 ≤ stackEnd → g.memory.Fits a 2 := by
    intro a ha
    rw [Memory.Fits, h.size]
    omega
  refine ⟨hfits _ (by decide), hfits _ (by decide), ?_⟩
  rw [h.frame]
  intro below hbelow
  apply hfits
  simp only [List.mem_cons, List.not_mem_nil, or_false] at hbelow
  rcases hbelow with rfl | rfl | rfl <;> decide

/-- A guest at rest that took a timer interrupt. -/
def inHandler (g : Guest) : Guest := g.entered timerVector

/-- The guest after the return from the handler. -/
def returned (g : Guest) : Guest := { inHandler g with frame := restFrame }

theorem AtRest.interrupt (h : AtRest size g) (hsize : stackEnd ≤ size) :
    g.interrupt timerVector = (.ok (), inHandler g) :=
  Guest.interrupt_eq h.resumable (h.hasRoom hsize)

theorem AtRest.iret (h : AtRest size g) (hsize : stackEnd ≤ size) :
    (inHandler g).iret = (.ok (), returned g) := by
  have hframe : { g.frame with flags := g.frame.flags ||| Frame.reservedFlag } = restFrame := by
    rw [h.frame]
    decide
  rw [inHandler, Guest.iret_entered g timerVector (h.hasRoom hsize).stack, hframe]
  rfl

/-- **A handler leaves no trace** but in memory and in the count of interrupts. -/
theorem AtRest.returned (h : AtRest size g) : AtRest size (returned g) where
  frame := rfl
  size := by
    show g.pushed.size = size
    simp [Guest.pushed, h.size]
  admitted := h.admitted
  dying := h.dying
  faulted := h.faulted

/-! ## One interrupt at a time -/

theorem offered?_idle (delivered : Nat) (vif : Bool) :
    (idleController delivered).offered? vif = none := by
  cases vif <;> cbv

theorem deliver_idle (delivered : Nat) (id : VmId) (g : Guest) :
    ((idleController delivered).deliver id g).val = (.ok none, idleController delivered, g) := by
  rw [InterruptController.deliver, offered?_idle]
  rfl

/-- The timer's line interrupts a guest at rest. -/
theorem raise_idle (h : AtRest size g) (hsize : stackEnd ≤ size) :
    ((idleController delivered).raise id IntervalTimer.timerLine g).val.2 =
      (busyController (delivered + 1), inHandler g) := by
  have hoffer : ((idleController delivered).latch (.master 0)).offered? g.vif =
      some (.master 0) := by
    rw [h.vif]
    cbv
  have hvector : ((idleController delivered).latch (.master 0)).vector (.master 0) =
      timerVector := by cbv
  have htaken : ((idleController delivered).latch (.master 0)).acknowledge (.master 0) =
      busyController (delivered + 1) := by cbv
  have hline : Line.ofNumber? IntervalTimer.timerLine = some (.master 0) := by cbv
  have hlatched : (idleController delivered).latch? (.master 0) =
      some ((idleController delivered).latch (.master 0)) := by cbv
  simp only [InterruptController.raise, hline, hlatched, InterruptController.deliver, hoffer,
    hvector, Traced.val_bind, Guest.val_inject, h.interrupt hsize, Traced.val_pure, htaken]

/-- While it is in service, the line is dropped. -/
theorem raise_busy (delivered : Nat) (id : VmId) (g : Guest) :
    ((busyController delivered).raise id IntervalTimer.timerLine g).val.2 =
      (busyController delivered, g) := by
  cbv

/-- The end of interrupt makes the controllers idle. -/
theorem end_busy (delivered : Nat) (id : VmId) (g : Guest) :
    ((busyController delivered).writeAndDeliver id InterruptController.masterCommand 0x20 g).val =
      (idleController delivered, g) := by
  have hwritten : ((busyController delivered).writePort id InterruptController.masterCommand
      0x20).val = idleController delivered := by cbv
  rw [InterruptController.val_writeAndDeliver, hwritten, deliver_idle]

theorem pulses_busy (n delivered : Nat) :
    Vm.pulse^[n] (.standard id size (busyController delivered) t g) =
      .standard id size (busyController delivered) t g := by
  have hpulse : (Vm.standard id size (busyController delivered) t g).pulse =
      .standard id size (busyController delivered) t g := by
    rw [Vm.pulse_standard, raise_busy]
  exact Function.iterate_fixed hpulse n

/-- **However often the line is raised**, the guest takes one interrupt. -/
theorem pulses_idle (h : AtRest size g) (hsize : stackEnd ≤ size) {n : Nat} (hn : 0 < n) :
    Vm.pulse^[n] (.standard id size (idleController delivered) t g) =
      .standard id size (busyController (delivered + 1)) t (inHandler g) := by
  obtain ⟨n, rfl⟩ := Nat.exists_eq_succ_of_ne_zero hn.ne'
  rw [Function.iterate_succ_apply, Vm.pulse_standard, raise_idle h hsize, pulses_busy]

/-! ## Timekeeping -/

/-- Channel 0 as the program sets it up on a clock at tick 0. -/
def armedChannel (hz : UInt32) (reload : UInt16) : Channel where
  mode := .rateGenerator
  control := 0x34
  reload := reload
  nullCount := false
  armed := true
  interval := Clock.ticksOfCounts { hz } (Channel.period { reload })

/-- Since it was armed as `c₀` `total` ticks ago, channel 0 fired once for each interval. -/
structure UpToDate (c₀ : Channel) (total : Nat) (k : Clock) (t : IntervalTimer) : Prop where
  schedule : IntervalTimer.OnSchedule c₀ total (total / c₀.interval.toNat) k (t.channel 0)
  free : (t.channel 0).isHeld = false

variable {c₀ : Channel} {total fired : Nat} {k : Clock}

/-- A look at the timer makes up for the intervals since the look before it. -/
theorem upToDate_expired (h : IntervalTimer.OnSchedule c₀ total fired k (t.channel 0))
    (hfree : (t.channel 0).isHeld = false) (hinterval : c₀.interval ≠ 0)
    (hperiodic : c₀.mode.isPeriodic = true) (hrange : total < 2 ^ 32) :
    UpToDate c₀ total k (t.expired k.now) ∧
      t.due k.now = total / c₀.interval.toNat - fired := by
  have hexpired := h.expire hinterval hperiodic hfree (by omega)
  have hsum := hexpired.expirations
  have hfirings : ((t.channel 0).expire k.now).2.expirations =
      (t.channel 0).expirations + (t.channel 0).firings k.now :=
    Channel.expirations_fired _ _
  refine ⟨⟨?_, ?_⟩, ?_⟩
  · rw [IntervalTimer.channel_expired]
    exact hexpired
  · rw [IntervalTimer.channel_expired]
    exact (Channel.isHeld_fired _ _).trans hfree
  · have hbefore := h.expirations
    rw [IntervalTimer.due_eq]
    omega

end RealModeMonitor.CommandLine
