import Mathlib.Data.List.Nodup
import RealModeMonitor.Shell

/-!
# Registering commands

Batches of commands are offered to a shell one after the other. It takes a **fresh** batch, one
whose names are all different and not registered yet, and appends it. Of any other batch it names
the command that **clashes first**, by a name that is registered or that an earlier command of the
batch has, and stays as it is.

**Invariant.** Names are unique (`nodup_names_offerAll`). So a lookup, which stops at the first
command of a name, finds the only one there is (`lookup?_eq_some_iff`). Commands are only ever
appended, so it finds the same one whatever is offered later (`lookup?_offerAll`).
-/

namespace RealModeMonitor.Shell

variable {s s' : Shell} {batch before rest : List ShellCommand} {taken : List String}
  {name : String} {c : ShellCommand} {e : ShellError}

/-! ## The search for a clash -/

theorem firstClash?_eq_none_iff :
    firstClash? taken batch = none ↔
      (batch.map ShellCommand.name).Nodup ∧ ∀ c ∈ batch, c.name ∉ taken := by
  induction batch generalizing taken with
  | nil => simp [firstClash?]
  | cons c rest ih =>
    by_cases hc : c.name ∈ taken
    · simp [firstClash?, hc]
    rw [firstClash?, if_neg hc, ih, List.map_cons, List.nodup_cons, List.forall_mem_cons]
    constructor
    · rintro ⟨hnodup, hrest⟩
      refine ⟨⟨fun hmem => ?_, hnodup⟩, hc,
        fun d hd hmem => hrest d hd (List.mem_cons_of_mem _ hmem)⟩
      obtain ⟨d, hd, hname⟩ := List.mem_map.1 hmem
      exact hrest d hd (hname ▸ List.mem_cons_self)
    · rintro ⟨⟨hname, hnodup⟩, -, hrest⟩
      refine ⟨hnodup, fun d hd hmem => ?_⟩
      rcases List.mem_cons.1 hmem with hd' | hd'
      · exact hname (hd' ▸ List.mem_map_of_mem hd)
      · exact hrest d hd hd'

/-- Names of a part without a clash are taken for the part after it. -/
theorem firstClash?_append (h : firstClash? taken before = none) (rest : List ShellCommand) :
    firstClash? taken (before ++ rest) =
      firstClash? ((before.map ShellCommand.name).reverse ++ taken) rest := by
  induction before generalizing taken with
  | nil => rfl
  | cons c before ih =>
    by_cases hc : c.name ∈ taken
    · simp [firstClash?, hc] at h
    rw [firstClash?, if_neg hc] at h
    rw [List.cons_append, firstClash?, if_neg hc, ih h, List.map_cons, List.reverse_cons,
      List.append_assoc, List.singleton_append]

theorem firstClash?_eq_some_iff :
    firstClash? taken batch = some name ↔
      ∃ before c after, batch = before ++ c :: after ∧ firstClash? taken before = none ∧
        (c.name ∈ taken ∨ c.name ∈ before.map ShellCommand.name) ∧ c.name = name := by
  constructor
  · intro h
    induction batch generalizing taken with
    | nil => cases h
    | cons c rest ih =>
      by_cases hc : c.name ∈ taken
      · rw [firstClash?, if_pos hc] at h
        exact ⟨[], c, rest, rfl, rfl, .inl hc, Option.some.inj h⟩
      · rw [firstClash?, if_neg hc] at h
        obtain ⟨before, d, after, rfl, hbefore, hclash, hd⟩ := ih h
        refine ⟨c :: before, d, after, rfl, by rw [firstClash?, if_neg hc, hbefore], ?_, hd⟩
        rcases hclash with hclash | hclash
        · rcases List.mem_cons.1 hclash with hname | htaken
          · exact .inr (hname ▸ List.mem_cons_self)
          · exact .inl htaken
        · exact .inr (List.mem_cons_of_mem _ hclash)
  · rintro ⟨before, c, after, rfl, hbefore, hclash, rfl⟩
    have hmem : c.name ∈ (before.map ShellCommand.name).reverse ++ taken := by
      rw [List.mem_append, List.mem_reverse]
      exact hclash.symm
    rw [firstClash?_append hbefore, firstClash?, if_pos hmem]

/-! ## One batch -/

/-- The names of the batch are all different, and none of them is registered. -/
def Fresh (s : Shell) (batch : List ShellCommand) : Prop :=
  (batch.map ShellCommand.name).Nodup ∧ ∀ c ∈ batch, c.name ∉ s.names

/-- Of the commands of the batch, `c` is the first whose name is registered or is the name of an
earlier one. -/
def ClashesFirst (s : Shell) (batch : List ShellCommand) (c : ShellCommand) : Prop :=
  ∃ before after, batch = before ++ c :: after ∧ s.Fresh before ∧
    (c.name ∈ s.names ∨ c.name ∈ before.map ShellCommand.name)

theorem add_eq_ok_iff : s.add batch = .ok s' ↔ s.Fresh batch ∧ s' = ⟨s.commands ++ batch⟩ := by
  rw [Fresh, ← firstClash?_eq_none_iff, add]
  cases firstClash? s.names batch with
  | none => simp [eq_comm]
  | some name => simp

theorem add_eq_error_iff :
    s.add batch = .error e ↔ ∃ c, s.ClashesFirst batch c ∧ e = .duplicate c.name := by
  have hclash : (∃ c, s.ClashesFirst batch c ∧ e = .duplicate c.name) ↔
      ∃ name, firstClash? s.names batch = some name ∧ e = .duplicate name := by
    simp only [firstClash?_eq_some_iff, firstClash?_eq_none_iff]
    constructor
    · rintro ⟨c, ⟨before, after, hbatch, hfresh, hc⟩, rfl⟩
      exact ⟨c.name, ⟨before, c, after, hbatch, hfresh, hc, rfl⟩, rfl⟩
    · rintro ⟨_, ⟨before, c, after, hbatch, hfresh, hc, rfl⟩, rfl⟩
      exact ⟨c, ⟨before, after, hbatch, hfresh, hc⟩, rfl⟩
  rw [hclash, add]
  cases firstClash? s.names batch with
  | none => simp
  | some name => simp [eq_comm]

/-- The shell after a batch is offered to it. -/
def offer (s : Shell) (batch : List ShellCommand) : Shell :=
  match s.add batch with
  | .ok s' => s'
  | .error _ => s

theorem offer_of_fresh (h : s.Fresh batch) : s.offer batch = ⟨s.commands ++ batch⟩ := by
  rw [offer, add_eq_ok_iff.2 ⟨h, rfl⟩]

theorem offer_of_not_fresh (h : ¬s.Fresh batch) : s.offer batch = s := by
  unfold offer
  cases hadd : s.add batch with
  | ok s' => exact absurd (add_eq_ok_iff.1 hadd).1 h
  | error e => rfl

theorem nodup_names_append (h : s.names.Nodup) (hfresh : s.Fresh batch) :
    (names ⟨s.commands ++ batch⟩).Nodup := by
  rw [names, List.map_append]
  refine h.append hfresh.1 fun name hname hbatch => ?_
  obtain ⟨c, hc, rfl⟩ := List.mem_map.1 hbatch
  exact hfresh.2 c hc hname

theorem nodup_names_offer (h : s.names.Nodup) (batch : List ShellCommand) :
    (s.offer batch).names.Nodup := by
  by_cases hfresh : s.Fresh batch
  · rw [offer_of_fresh hfresh]
    exact nodup_names_append h hfresh
  · rwa [offer_of_not_fresh hfresh]

theorem prefix_offer (s : Shell) (batch : List ShellCommand) :
    s.commands <+: (s.offer batch).commands := by
  by_cases hfresh : s.Fresh batch
  · rw [offer_of_fresh hfresh]
    exact List.prefix_append _ _
  · simp only [offer_of_not_fresh hfresh, List.prefix_refl]

/-- What becomes of a batch that a shell is offered. -/
structure Registers (s : Shell) (batch : List ShellCommand) : Prop where
  accepts : (∃ s', s.add batch = .ok s') ↔ s.Fresh batch
  /-- Exactly the commands of the batch are appended, in order. -/
  appends : ∀ s', s.add batch = .ok s' → s.offer batch = s' ∧ s'.commands = s.commands ++ batch
  refuses : ∀ e, s.add batch = .error e ↔ ∃ c, s.ClashesFirst batch c ∧ e = .duplicate c.name
  keeps : ∀ e, s.add batch = .error e → s.offer batch = s

theorem registers (s : Shell) (batch : List ShellCommand) : s.Registers batch where
  accepts := by simp [add_eq_ok_iff]
  appends s' hadd := by
    obtain ⟨hfresh, rfl⟩ := add_eq_ok_iff.1 hadd
    exact ⟨offer_of_fresh hfresh, rfl⟩
  refuses _ := add_eq_error_iff
  keeps e hadd := by rw [offer, hadd]

/-! ## Many batches -/

/-- The shell after batches are offered to it in order. -/
def offerAll (s : Shell) (batches : List (List ShellCommand)) : Shell := batches.foldl offer s

theorem nodup_names_initial : initial.names.Nodup := by decide

theorem nodup_names_offerAll (h : s.names.Nodup) (batches : List (List ShellCommand)) :
    (s.offerAll batches).names.Nodup := by
  induction batches generalizing s with
  | nil => exact h
  | cons batch batches ih => exact ih (nodup_names_offer h batch)

theorem prefix_offerAll (s : Shell) (batches : List (List ShellCommand)) :
    s.commands <+: (s.offerAll batches).commands := by
  induction batches generalizing s with
  | nil => exact List.prefix_refl _
  | cons batch batches ih => exact (s.prefix_offer batch).trans (ih _)

/-! ## Lookups -/

theorem lookup?_eq_none_iff : s.lookup? name = none ↔ name ∉ s.names := by
  simp [lookup?, names]

/-- A lookup finds the one command of a name. -/
theorem lookup?_eq_some_iff (h : s.names.Nodup) :
    s.lookup? name = some c ↔ c ∈ s.commands ∧ c.name = name := by
  constructor
  · intro hfind
    exact ⟨List.mem_of_find?_eq_some hfind, by simpa using List.find?_some hfind⟩
  · rintro ⟨hc, rfl⟩
    cases hfind : s.lookup? c.name with
    | none => exact absurd (List.mem_map_of_mem hc) (lookup?_eq_none_iff.1 hfind)
    | some d =>
      have hd : d ∈ s.commands := List.mem_of_find?_eq_some hfind
      have hname : d.name = c.name := by simpa using List.find?_some hfind
      rw [List.inj_on_of_nodup_map h hd hc hname]

/-- What a name leads to it leads to for good. -/
theorem lookup?_offerAll (h : s.lookup? name = some c) (batches : List (List ShellCommand)) :
    (s.offerAll batches).lookup? name = some c :=
  (s.prefix_offerAll batches).find?_eq_some h

end RealModeMonitor.Shell
