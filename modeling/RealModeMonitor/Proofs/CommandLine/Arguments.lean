import Mathlib
import RealModeMonitor.CommandLine.Options

/-!
# Writing options down

All options without shell commands can be given on the command line: every number in decimal, each
in one argument with its name (`Options.arguments`). What reads a number, an argument, or all of
them gives back what was written.

Main result: `ofArguments?_arguments`.
-/

namespace RealModeMonitor.CommandLine

/-! ## Numbers -/

theorem digits?_toDigits (n : Nat) : digits? (Nat.toDigits 10 n) = some n := by
  have hall : (Nat.toDigits 10 n).all Char.isDigit = true :=
    List.all_eq_true.2 fun c hc => Nat.isDigit_of_mem_toDigits (by decide) (by decide) hc
  have hempty : (Nat.toDigits 10 n).isEmpty = false := by
    simp [Nat.toDigits_ne_nil]
  rw [digits?, hempty, hall, ← Nat.ofDigitChars_eq_foldl, Nat.ofDigitChars_ten_toDigits]
  rfl

/-- A number does not begin with a sign. -/
theorem toDigits_eq_cons (n : Nat) :
    ∃ c rest, Nat.toDigits 10 n = c :: rest ∧ c ≠ '+' ∧ c ≠ '-' := by
  cases hdigits : Nat.toDigits 10 n with
  | nil => exact absurd hdigits Nat.toDigits_ne_nil
  | cons c rest =>
    have hc : c.isDigit = true := by
      apply Nat.isDigit_of_mem_toDigits (b := 10) (n := n) (by decide) (by decide)
      rw [hdigits]
      exact List.mem_cons_self
    refine ⟨c, rest, rfl, ?_, ?_⟩
    · rintro rfl
      exact absurd hc (by decide)
    · rintro rfl
      exact absurd hc (by decide)

theorem unsigned?_toDigits {n most : Nat} (h : n ≤ most) :
    unsigned? most (Nat.toDigits 10 n) = some n := by
  obtain ⟨c, rest, hcons, hplus, -⟩ := toDigits_eq_cons n
  have hdigits := digits?_toDigits n
  rw [hcons] at hdigits ⊢
  unfold unsigned?
  split
  next heq => exact absurd (List.cons.inj heq).1 hplus
  next => simp [hdigits, h]

theorem inRange?_toDigits {n most : Nat} (h : n ≤ most) :
    inRange? most (Nat.toDigits 10 n) = some n := by
  obtain ⟨c, rest, hcons, -, hminus⟩ := toDigits_eq_cons n
  have hunsigned := unsigned?_toDigits h
  rw [hcons] at hunsigned ⊢
  unfold inRange?
  split
  next heq => exact absurd (List.cons.inj heq).1 hminus
  next => exact hunsigned

/-! ## Arguments -/

/-- An option as one argument. -/
def Given.argument (g : Given) : List Char :=
  '-' :: '-' :: g.name.long.toList ++ if g.name.takesValue then '=' :: g.value else []

theorem ofChars_argument {g : Given} (h : g.name.takesValue = false → g.value = []) :
    Argument.ofChars g.argument = .given g := by
  obtain ⟨name, value⟩ := g
  cases name with
  | dbio =>
    obtain rfl := h rfl
    cbv
  | vms => cbv
  | ticks => cbv
  | step => cbv
  | reload => cbv
  | tickHz => cbv
  | memoryKb => cbv
  | maxVms => cbv
  | cmd => cbv

theorem scan_arguments {given : List Given}
    (h : ∀ g ∈ given, g.name.takesValue = false → g.value = []) :
    scan (given.map Given.argument) = some given := by
  induction given with
  | nil => rfl
  | cons g given ih =>
    obtain ⟨hg, hrest⟩ := List.forall_mem_cons.1 h
    rw [List.map_cons, scan, ofChars_argument hg]
    dsimp only
    rw [ih hrest]
    rfl

/-! ## Options -/

namespace Options

/-- Every option, with its value. -/
def given (o : Options) : List Given :=
  [⟨.vms, Nat.toDigits 10 o.vms⟩,
    ⟨.ticks, Nat.toDigits 10 o.ticks.toNat⟩,
    ⟨.step, Nat.toDigits 10 o.step.toNat⟩,
    ⟨.reload, Nat.toDigits 10 o.reload.toNat⟩,
    ⟨.tickHz, Nat.toDigits 10 o.tickHz.toNat⟩,
    ⟨.memoryKb, Nat.toDigits 10 o.memoryKb⟩,
    ⟨.maxVms, Nat.toDigits 10 o.maxVms⟩] ++ if o.dbio then [⟨.dbio, []⟩] else []

/-- The arguments that give these options, but for commands of the shell. -/
def arguments (o : Options) : List String := o.given.map fun g => String.ofList g.argument

variable {o : Options}

theorem ofGiven?_given (hvms : o.vms ≤ largestWord) (hmemory : o.memoryKb ≤ largestWord)
    (hmaxVms : o.maxVms ≤ largestWord) (hcommands : o.commands = []) :
    ofGiven? o.given = some o := by
  have honce : withoutRepeats o.given = true := by
    unfold given
    cases o.dbio <;> cbv
  have hword : ∀ w : UInt32, inRange? 4294967295 (Nat.toDigits 10 w.toNat) = some w.toNat :=
    fun w => inRange?_toDigits (Nat.le_pred_of_lt w.toNat_lt)
  have hshort : ∀ w : UInt16, inRange? 65535 (Nat.toDigits 10 w.toNat) = some w.toNat :=
    fun w => inRange?_toDigits (Nat.le_pred_of_lt w.toNat_lt)
  obtain ⟨vms, ticks, step, reload, tickHz, memoryKb, maxVms, dbio, commands⟩ := o
  subst hcommands
  rw [ofGiven?, if_pos honce, given]
  cases dbio <;> simp [set, unsigned?_toDigits, hvms, hmemory, hmaxVms, hword, hshort]

/-- **Options can be given**, if their numbers are machine words. -/
theorem ofArguments?_arguments (hvms : o.vms ≤ largestWord) (hmemory : o.memoryKb ≤ largestWord)
    (hmaxVms : o.maxVms ≤ largestWord) (hcommands : o.commands = []) :
    ofArguments? o.arguments = some o := by
  have hvalues : ∀ g ∈ o.given, g.name.takesValue = false → g.value = [] := by
    unfold given
    cases o.dbio <;> simp [OptionName.takesValue]
  have hlists : o.arguments.map String.toList = o.given.map Given.argument := by
    simp [arguments]
  rw [ofArguments?, hlists, scan_arguments hvalues]
  exact ofGiven?_given hvms hmemory hmaxVms hcommands

end Options

end RealModeMonitor.CommandLine
