import RealModeMonitor.Proofs.CommandLine.Arguments
import RealModeMonitor.Proofs.CommandLine.Batches

/-!
# What the program prints

With usable options and no shell commands the program prints one line for each session and
succeeds. The numbers in it follow from the options alone (`Options.report`): a timer expires once
per interval, and a guest takes an interrupt in every batch that crosses a multiple of the interval.
All usable options can be given (`ofArguments?_arguments`).

The program cuts the ticks into `batches`; `prefixSum_batches` tells how many ticks passed before
each of them.

Main result: `prints_report`.
-/

namespace RealModeMonitor.CommandLine

open Traced Monitor

/-! ## The numbers -/

namespace Options

/-- Ticks in a batch, but for the last one. -/
def batchSize (o : Options) : Nat := max o.step.toNat 1

/-- Ticks that passed before batch `j`. -/
def passed (o : Options) (j : Nat) : Nat := min (j * o.batchSize) o.ticks.toNat

/-- Expirations of a session's timer. -/
def expirations (o : Options) : Nat := o.ticks.toNat / o.interval

/-- Interrupts that a guest takes: batches during which a multiple of the interval is crossed. -/
def deliveries (o : Options) : Nat :=
  (List.range (o.ticks.toNat ⌈/⌉ o.batchSize)).countP fun j =>
    Crosses o.interval (o.passed j) (o.passed (j + 1))

end Options

/-- What is printed of session `i`. -/
def lineOf (i expirations deliveries : Nat) : String :=
  s!"vm{i}.0: {expirations} timer expirations, {deliveries} interrupts delivered\n"

/-- What is printed of all sessions. -/
def Options.report (o : Options) : String :=
  String.join ((List.range o.vms).map fun i => lineOf i o.expirations o.deliveries)

/-! ## Batches -/

/-- Crossings, batch by batch. -/
theorem crossings_eq_countP (interval total : Nat) (xs : List Nat) :
    crossings interval total xs = (List.range xs.length).countP fun j =>
      Crosses interval (total + (xs.take j).sum) (total + (xs.take (j + 1)).sum) := by
  induction xs generalizing total with
  | nil => rfl
  | cons x xs ih =>
    rw [crossings, ih, List.length_cons, List.range_succ_eq_map, List.countP_cons, List.countP_map,
      Nat.add_comm]
    congr 1
    · apply List.countP_congr
      intro j _
      rw [Function.comp_apply, List.take_succ_cons, List.take_succ_cons, List.sum_cons,
        List.sum_cons, Nat.add_assoc, Nat.add_assoc]
    · simp

/-- The ticks are cut at the quotient and its rest. -/
theorem batches_split (ticks step : Nat) :
    ∃ q r, ticks = max step 1 * q + r ∧ r < max step 1 ∧
      batches ticks step = List.replicate q (max step 1) ++ if r = 0 then [] else [r] :=
  ⟨_, _, (Nat.div_add_mod ticks (max step 1)).symm, Nat.mod_lt ticks (by omega), rfl⟩

theorem length_batches (ticks step : Nat) :
    (batches ticks step).length = ticks ⌈/⌉ max step 1 := by
  obtain ⟨q, r, hsplit, hrest, hbatches⟩ := batches_split ticks step
  rw [Nat.ceilDiv_eq_add_pred_div, hbatches, List.length_append, List.length_replicate, hsplit,
    Nat.add_assoc, Nat.add_sub_assoc (by omega), Nat.mul_add_div (by omega)]
  by_cases hr : r = 0
  · rw [if_pos hr, hr, Nat.zero_add, Nat.div_eq_of_lt (by omega)]
    rfl
  · rw [if_neg hr, Nat.div_eq_of_lt_le (k := 1) (by omega) (by omega)]
    rfl

/-- The ticks in the first `j` batches. -/
theorem prefixSum_batches (ticks step j : Nat) :
    ((batches ticks step).take j).sum = min (j * max step 1) ticks := by
  obtain ⟨q, r, hsplit, hrest, hbatches⟩ := batches_split ticks step
  rw [hbatches, hsplit, Nat.mul_comm _ q, List.take_append, List.take_replicate,
    List.length_replicate, List.sum_append, List.sum_replicate, smul_eq_mul]
  rcases Nat.lt_or_ge q j with hlt | hle
  · -- All batches, the last one included.
    have hall : (List.take (j - q) (if r = 0 then [] else [r])).sum = r := by
      by_cases hr : r = 0
      · simp [hr]
      · rw [if_neg hr, List.take_of_length_le (Nat.sub_pos_of_lt hlt)]
        exact List.sum_singleton
    have hpast : q * max step 1 + r ≤ j * max step 1 := by
      have hmul := Nat.mul_le_mul_right (max step 1) (Nat.succ_le_of_lt hlt)
      rw [Nat.succ_mul] at hmul
      omega
    rw [hall, Nat.min_eq_right hlt.le, Nat.min_eq_right hpast]
  · have hbefore : j * max step 1 ≤ q * max step 1 + r :=
      (Nat.mul_le_mul_right _ hle).trans (Nat.le_add_right _ _)
    rw [Nat.sub_eq_zero_of_le hle, Nat.min_eq_left hle, Nat.min_eq_left hbefore]
    simp

theorem sum_batches (ticks step : Nat) : (batches ticks step).sum = ticks := by
  have hpos : 0 < max step 1 := by omega
  have hsum := prefixSum_batches ticks step (batches ticks step).length
  rw [List.take_length, length_batches] at hsum
  rw [hsum, Nat.mul_comm]
  exact Nat.min_eq_right (le_smul_ceilDiv hpos)

theorem crossings_batches (o : Options) :
    crossings o.interval 0 (batches o.ticks.toNat o.step.toNat) = o.deliveries := by
  rw [crossings_eq_countP, length_batches, Options.deliveries, Options.batchSize]
  apply List.countP_congr
  intro j _
  rw [prefixSum_batches, prefixSum_batches, Nat.zero_add, Nat.zero_add]
  rfl

/-! ## Lines -/

variable {o : Options} {i n total delivered : Nat} {m : Monitor} {id : VmId} {v : Vm}

/-- A look at channel 0 of a session at rest finds nothing due. -/
theorem timerChannel_resting (hm : Sound (config o) m) (live : m.registry.get? id = some v)
    (hv : Resting o total delivered m.clock id v) (hrange : total < 2 ^ 32) (h : Usable o) :
    ∃ view m' v', settled (m.timerChannel id 0) = .ok (view, m') ∧
      view.expirations = total / o.interval ∧ Placed (config o) m id v' m' ∧
      Resting o total delivered m.clock id v' := by
  obtain ⟨t, g, rfl, htimer, hguest⟩ := hv
  obtain ⟨hafter, hdue⟩ := upToDate_expired htimer.schedule htimer.free (interval_ne_zero o) rfl
    hrange
  have hexpirations :
      ((t.expired m.clock.now).channel 0).view.expirations = total / o.interval := by
    have hcount := hafter.schedule.expirations
    rw [toNat_interval h] at hcount
    exact hcount.trans (Nat.zero_add _)
  have hsync : ((Vm.standard id (config o).guestMemory (idleController delivered) t g).syncTimer
      m.clock).val = .standard id (config o).guestMemory (idleController delivered)
        (t.expired m.clock.now) g := by
    rw [Vm.syncTimer_standard, hdue, Nat.sub_self]
    rfl
  obtain ⟨m', hlook, hplaced⟩ : ∃ m', settled (m.timerChannel id 0) =
      .ok (((t.expired m.clock.now).channel 0).view, m') ∧
      Placed (config o) m id (.standard id (config o).guestMemory (idleController delivered)
        (t.expired m.clock.now) g) m' := by
    refine settled_standard hm live ?_ hguest.faulted
    rw [val_bind, hsync]
    rfl
  exact ⟨_, m', _, hlook, hexpirations, hplaced, _, g, rfl, hafter, hguest⟩

theorem text_sessionId (hi : i < mostSlots) :
    (sessionId i).text ++ ": " = "vm" ++ toString i ++ ".0: " := by
  have hgeneration : toString (sessionId i).generation.toNat = "0" := by cbv
  rw [VmId.text, toNat_slot_sessionId hi, hgeneration, String.append_assoc, String.append_assoc]
  rfl

/-- The line of one session tells its expirations and interrupts. -/
theorem sessionLine_resting (h : Usable o) (hm : Everywhere o n (Resting o total delivered) m)
    (hn : n ≤ mostSlots) (hi : i < n) (hrange : total < 2 ^ 32) :
    ∃ m', sessionLine m (sessionId i) = .ok (lineOf i (total / o.interval) delivered, m') ∧
      Everywhere o n (Resting o total delivered) m' := by
  have hi' : i < mostSlots := Nat.lt_of_lt_of_le hi hn
  obtain ⟨v, live, hv⟩ := hm.each i hi
  obtain ⟨t, g, rfl, -, hguest⟩ := id hv
  obtain ⟨m₁, hlook, h₁⟩ := controllerOf_standard hm.sound live hguest.faulted
  rw [← h₁.clock] at hv
  obtain ⟨view, m₂, v₂, hview, hexpirations, h₂, hv₂⟩ :=
    timerChannel_resting h₁.sound h₁.live hv hrange h
  rw [h₁.clock] at hv₂
  refine ⟨m₂, ?_, hm.place (h₁.trans h₂) hv₂ hi' hn (by omega)⟩
  simp only [sessionLine, hlook, hview, ok_bind, hexpirations, text_sessionId hi']
  rfl

/-- Lines are printed one after the other. -/
theorem told_eq (h : Usable o) (hm : Everywhere o n (Resting o total delivered) m)
    (hn : n ≤ mostSlots) (hrange : total < 2 ^ 32) {is : List Nat} (his : ∀ i ∈ is, i < n)
    (output : String) :
    ∃ m', (is.map sessionId).foldl (fun (p : Progress) id => p.step fun m => sessionLine m id)
        ⟨output, .ok m⟩ =
      ⟨output ++ String.join (is.map fun i => lineOf i (total / o.interval) delivered),
        .ok m'⟩ := by
  induction is generalizing m output with
  | nil => exact ⟨m, by simp⟩
  | cons i is ih =>
    obtain ⟨hi, his⟩ := List.forall_mem_cons.1 his
    obtain ⟨m₁, hline, h₁⟩ := sessionLine_resting h hm hn hi hrange
    obtain ⟨m₂, hrest⟩ := ih h₁ his (output ++ lineOf i (total / o.interval) delivered)
    refine ⟨m₂, ?_⟩
    have hstep : Progress.step ⟨output, .ok m⟩ (fun m => sessionLine m (sessionId i)) =
        ⟨output ++ lineOf i (total / o.interval) delivered, .ok m₁⟩ := by
      simp only [Progress.step, hline]
    rw [List.map_cons, List.foldl_cons, hstep, hrest, List.map_cons, String.join_cons,
      String.append_assoc]

/-! ## The program -/

/-- **What runs** is the sessions that were asked for, for the ticks that were asked for. -/
theorem runGuests_resting (h : Usable o) :
    ∃ m, runGuests o = .ok ((List.range o.vms).map sessionId, m) ∧
      Everywhere o o.vms (Resting o o.ticks.toNat o.deliveries) m := by
  obtain ⟨m, hstart, h₀⟩ := started_zero h o.dbio
  have hvms : o.vms ≤ mostSlots := Nat.le_trans h.vms h.limit
  obtain ⟨m₁, hsessions, h₁⟩ := startSessions_started h o.vms h₀ (by rw [Nat.zero_add]; exact h.vms)
  rw [Nat.zero_add] at hsessions h₁
  have hrange : 0 + (batches o.ticks.toNat o.step.toNat).sum < 2 ^ 32 := by
    rw [sum_batches, Nat.zero_add]
    exact o.ticks.toNat_lt
  obtain ⟨m₂, hbatches, h₂⟩ := runBatches_resting h h₁.toEverywhere hvms hrange
  rw [sum_batches, crossings_batches, Nat.zero_add, Nat.zero_add] at h₂
  refine ⟨m₂, ?_, h₂⟩
  have hnone : (List.range 0).map sessionId = [] := rfl
  rw [hnone] at hsessions
  simp only [runGuests, hstart, hsessions, ok_bind, hbatches]
  rfl

theorem run_output (h : Usable o) (hcommands : o.commands = []) :
    ∃ m, run o = ⟨o.report, .ok m⟩ := by
  obtain ⟨m, hrun, hm⟩ := runGuests_resting h
  have hvms : o.vms ≤ mostSlots := Nat.le_trans h.vms h.limit
  obtain ⟨m', htold⟩ := told_eq h hm hvms o.ticks.toNat_lt
    (fun i hi => List.mem_range.1 hi) ""
  refine ⟨killAll ((List.range o.vms).map sessionId) m', ?_⟩
  rw [String.empty_append] at htold
  simp only [run, hrun, htold, hcommands, List.foldl_nil]
  rfl

/-- **The program prints its report.** Usable options without commands of the shell can be given,
and however they are given the program succeeds and prints for each session, in the order they were
started, how often its timer expired and how many interrupts its guest took. -/
theorem prints_report (h : Usable o) (hcommands : o.commands = []) :
    Options.ofArguments? o.arguments = some o ∧
      ∀ arguments, Options.ofArguments? arguments = some o →
        outcome arguments = .finished 0 o.report "" := by
  constructor
  · have hmaxVms : o.maxVms ≤ Options.largestWord := Nat.le_trans h.limit (by decide)
    have hmemory : o.memoryKb ≤ Options.largestWord := by
      have hgranted := h.granted
      unfold Options.largestWord
      omega
    exact Options.ofArguments?_arguments (Nat.le_trans h.vms hmaxVms) hmemory hmaxVms hcommands
  · intro arguments hoptions
    obtain ⟨m, hrun⟩ := run_output h hcommands
    rw [outcome, hoptions]
    dsimp only
    rw [hrun]

/-- Two sessions, an interval of eight ticks, and two expirations in every batch. -/
theorem prints_two_lines :
    outcome ["--vms=2", "--max-vms", "2", "--ticks=50", "--step=20", "--reload=15",
        "--tick-hz=596591", "--memory-kb=640"] =
      .finished 0
        ("vm0.0: 6 timer expirations, 3 interrupts delivered\n" ++
          "vm1.0: 6 timer expirations, 3 interrupts delivered\n") "" := by
  let o : Options :=
    { vms := 2, maxVms := 2, ticks := 50, step := 20, reload := 15, tickHz := 596591,
      memoryKb := 640 }
  have hoptions : Options.ofArguments? ["--vms=2", "--max-vms", "2", "--ticks=50", "--step=20",
      "--reload=15", "--tick-hz=596591", "--memory-kb=640"] = some o := by cbv
  have husable : Usable o := ⟨by decide, by decide, by decide, by decide, by decide, by decide⟩
  have hreport : o.report = "vm0.0: 6 timer expirations, 3 interrupts delivered\n" ++
      "vm1.0: 6 timer expirations, 3 interrupts delivered\n" := by cbv
  rw [← hreport]
  exact (prints_report husable rfl).2 _ hoptions

/-- Without a slot there is no monitor, not even for no sessions. -/
theorem refuses_no_slots :
    let arguments := ["--vms", "0", "--max-vms", "0"]
    let o : Options := { vms := 0, maxVms := 0 }
    Options.ofArguments? arguments = some o ∧ o.commands = [] ∧ o.vms ≤ o.maxVms ∧
      o.maxVms ≤ mostSlots ∧ 1 ≤ o.tickHz.toNat ∧ 640 ≤ o.memoryKb ∧
      o.memoryKb * 1024 < UInt64.size ∧ o.report = "" ∧
      outcome arguments = .finished 1 ""
        "Error: Invalid configuration: max_vms must be in 1..=65535, got 0\n" := by
  intro arguments o
  have hoptions : Options.ofArguments? arguments = some o := by cbv
  have hreport : o.report = "" := by simp [Options.report, o]
  have hfails : run o = ⟨"", .error (.monitor (.invalidConfig (.slots 0)))⟩ := rfl
  refine ⟨hoptions, rfl, by decide, by decide, by decide, by decide, by decide, hreport, ?_⟩
  rw [outcome, hoptions]
  dsimp only
  rw [hfails]
  decide

end RealModeMonitor.CommandLine
