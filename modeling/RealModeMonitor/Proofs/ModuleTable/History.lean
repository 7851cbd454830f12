import Mathlib.Algebra.BigOperators.Pi
import RealModeMonitor.Proofs.ModuleTable.Firmness

/-!
# Histories of a table

The **log** of a run has each request with its result, so that the opens and closes of a module can
be counted. In a balanced history no module is closed more often than it was opened.

**The ledger.** In a balanced history the references are those of the opens that are outstanding,
along all routes (`Ledger`). One request keeps this up (`Ledger.handle`), because a close then finds
every reference that it gives back, and skips nothing (`closeAll_exact`).

**Counts** are therefore known after any balanced history, and so is which modules cannot be
unloaded (`handleAll_counts`).
-/

namespace RealModeMonitor.ModuleTable

variable {infos : List ModuleInfo} {t t' : ModuleTable} {name : String} {names : List String}
  {least : UInt32} {i : Nat}

/-! ## The log -/

/-- How often a module was opened. -/
def opens (log : List Answered) (name : String) : Nat :=
  log.countP fun
    | ⟨.openUp n _, .ok ()⟩ => n = name
    | _ => false

/-- How often a module was closed. -/
def closes (log : List Answered) (name : String) : Nat :=
  log.countP fun
    | ⟨.close n, _⟩ => n = name
    | _ => false

/-- How many opens of a module are not closed yet. -/
def outstanding (log : List Answered) (name : String) : Nat := opens log name - closes log name

variable {log : List Answered} {request : Request} {result : Except MonitorError Unit}

theorem opens_opened (log : List Answered) (name : String) (least : UInt32) :
    opens (log ++ [⟨.openUp name least, .ok ()⟩]) = opens log + Pi.single name 1 := by
  funext n
  by_cases hn : name = n
  · subst hn
    simp [opens]
  · simp [opens, hn, Ne.symm hn]

theorem closes_closed (log : List Answered) (name : String) (result : Except MonitorError Unit) :
    closes (log ++ [⟨.close name, result⟩]) = closes log + Pi.single name 1 := by
  funext n
  by_cases hn : name = n
  · subst hn
    simp [closes]
  · simp [closes, hn, Ne.symm hn]

theorem opens_other (h : ∀ name least, request = .openUp name least → result ≠ .ok ()) :
    opens (log ++ [⟨request, result⟩]) = opens log := by
  funext n
  cases request with
  | openUp name least =>
    cases result with
    | error e => simp [opens]
    | ok => exact absurd rfl (h name least rfl)
  | close name => simp [opens]
  | expunge name => simp [opens]

theorem closes_other (h : ∀ name, request ≠ .close name) :
    closes (log ++ [⟨request, result⟩]) = closes log := by
  funext n
  cases request with
  | openUp name least => simp [closes]
  | close name => exact absurd rfl (h name)
  | expunge name => simp [closes]

theorem outstanding_opened (hcovered : closes log name ≤ opens log name) :
    outstanding (log ++ [⟨.openUp name least, .ok ()⟩]) = outstanding log + Pi.single name 1 := by
  funext n
  rw [outstanding, opens_opened, closes_other (by simp), Pi.add_apply, Pi.add_apply, outstanding]
  by_cases hn : n = name
  · subst hn
    rw [Pi.single_eq_same]
    omega
  · rw [Pi.single_eq_of_ne hn, Nat.add_zero, Nat.add_zero]

theorem outstanding_closed (result : Except MonitorError Unit)
    (hheld : closes log name < opens log name) :
    outstanding log = outstanding (log ++ [⟨.close name, result⟩]) + Pi.single name 1 := by
  funext n
  rw [Pi.add_apply, outstanding, outstanding, opens_other (by simp), closes_closed, Pi.add_apply]
  by_cases hn : n = name
  · subst hn
    rw [Pi.single_eq_same]
    omega
  · rw [Pi.single_eq_of_ne hn, Nat.add_zero, Nat.add_zero]

/-! ## References of what is outstanding -/

/-- The references to the module at place `i`, if every module is opened `held` times. -/
noncomputable def owing (infos : List ModuleInfo) (held : String → Nat) (i : Nat) : ℕ∞ :=
  ∑ n ∈ (infos.map ModuleInfo.name).toFinset, held n * ways infos n i

theorem mem_names {p : ModuleInfo × Nat} (h : lookup? infos name = some p) :
    name ∈ (infos.map ModuleInfo.name).toFinset := by
  obtain ⟨hget, rfl⟩ := lookup?_eq_some h
  exact List.mem_toFinset.2 (List.mem_map_of_mem (List.mem_of_getElem? hget))

/-- One more open is one more reference along every route. -/
theorem owing_add_single {p : ModuleInfo × Nat} (h : lookup? infos name = some p)
    (held : String → Nat) (i : Nat) :
    owing infos (held + Pi.single name 1) i = owing infos held i + ways infos name i := by
  have hsingle : ∀ n, ((Pi.single name 1 : String → Nat) n : ℕ∞) * ways infos n i =
      if name = n then ways infos name i else 0 := by
    intro n
    by_cases hn : name = n
    · subst hn
      simp
    · simp [hn, Ne.symm hn]
  simp only [owing, Pi.add_apply, Nat.cast_add, add_mul, Finset.sum_add_distrib, hsingle,
    Finset.sum_ite_eq, if_pos (mem_names h)]

/-- The modules that a close came to while they were not open. -/
def skipped {α : Type} (x : Traced α) : List String :=
  x.diagnostics.filterMap fun
    | .moduleNotOpen name => some name
    | _ => none

@[simp] theorem skipped_pure {α : Type} (a : α) : skipped (pure a) = [] := rfl

@[simp] theorem skipped_bind {α β : Type} (x : Traced α) (f : α → Traced β) :
    skipped (x >>= f) = skipped x ++ skipped (f x.val) := by
  simp [skipped, Traced.diagnostics]

/-- Where something is counted, one of it can be taken away. -/
theorem cast_pred {c : Nat} {x : ℕ∞} (h : (c : ℕ∞) = 1 + x) : ((c - 1 : Nat) : ℕ∞) = x := by
  rw [ENat.natCast_sub, h, Nat.cast_one]
  exact (ENat.addLECancellable_of_ne_top ENat.one_ne_top).add_tsub_cancel_left

/-- **Closing** takes back the references along all routes, and skips nothing, as long as they are
all held. -/
theorem closeAll_exact {rest : Nat → ℕ∞} (h : t.Supplied)
    (hnames : ∀ d ∈ names, ∃ p, lookup? t.infos d = some p)
    (hcount : ∀ i < t.infos.length,
      (t.count i : ℕ∞) = rest i + (names.map fun d => ways t.infos d i).sum) :
    skipped (t.closeAll names) = [] ∧
      ∀ i < t.infos.length, ((t.closeAll names).val.2.count i : ℕ∞) = rest i := by
  refine h.closeAll_induction (P := fun t names => ∀ rest : Nat → ℕ∞,
    (∀ i < t.infos.length,
      (t.count i : ℕ∞) = rest i + (names.map fun d => ways t.infos d i).sum) →
    skipped (t.closeAll names) = [] ∧
      ∀ i < t.infos.length, ((t.closeAll names).val.2.count i : ℕ∞) = rest i)
    ?nil ?held ?skipped hnames rest hcount
  case nil =>
    intro t rest hcount
    rw [closeAll_nil]
    exact ⟨rfl, fun i hi => (hcount i hi).trans (add_zero _)⟩
  case held =>
    intro t name names i e hlookup he hpos ih rest hcount
    rw [closeAll_held (place?_of_lookup? hlookup) he hpos]
    rw [infos_release] at ih
    refine ih rest fun j hj => ?_
    have hj := hcount j hj
    rw [List.map_cons, List.sum_cons, ways_eq, dependencies_of_lookup? hlookup, hlookup] at hj
    rw [count_release, List.map_append, List.map_reverse, List.sum_append, List.sum_reverse]
    by_cases hij : i = j
    · subst hij
      rw [if_pos rfl]
      refine cast_pred (hj.trans ?_)
      rw [Option.map_some, if_pos rfl]
      ac_rfl
    · rw [if_neg hij, Nat.sub_zero, hj, Option.map_some, if_neg (by simpa using hij), zero_add]
  case skipped =>
    intro t name names i e hlookup he hzero _ rest hcount
    obtain ⟨hlt, -⟩ := List.getElem?_eq_some_iff.1 (lookup?_eq_some hlookup).1
    have hi := hcount i hlt
    rw [count_of_getElem? he, Nat.eq_zero_of_not_pos hzero, List.map_cons, List.sum_cons] at hi
    have hway : ways t.infos name i = 0 := (add_eq_zero.1 (add_eq_zero.1 hi.symm).2).1
    exact absurd (one_le_ways hlookup) (by simp [hway])

theorem skipped_load (t : ModuleTable) (i : Nat) : skipped (t.load i) = [] := by
  unfold load
  split
  · split <;> rfl
  · rfl

theorem skipped_openModule (t : ModuleTable) (name : String) (least : UInt32) :
    skipped (t.openModule name least) = [] := by
  have hload : ∀ (places : List Nat) (t : ModuleTable), skipped (places.foldlM load t) = [] := by
    intro places
    induction places with
    | nil => exact fun _ => rfl
    | cons i places ih =>
      intro t
      rw [List.foldlM_cons, skipped_bind, skipped_load, ih]
      rfl
  rw [openModule_eq]
  simp only [skipped_bind, hload, skipped_pure, List.append_nil]

theorem skipped_expunge (t : ModuleTable) (name : String) : skipped (t.expunge name) = [] := by
  unfold expunge
  split
  · rfl
  · split
    · rfl
    · split
      · rfl
      · split <;> rfl

/-- The references in `t` are those of the opens that are outstanding after `log`. -/
structure Ledger (infos : List ModuleInfo) (log : List Answered) (t : ModuleTable) : Prop where
  modules : t.infos = infos
  firm : t.Firm
  /-- Only modules on firm ground were opened. -/
  grounded : ∀ n, 0 < opens log n → Grounded infos n
  covered : ∀ n, (lookup? infos n).isSome → closes log n ≤ opens log n
  count : ∀ i < infos.length, (t.count i : ℕ∞) = owing infos (outstanding log) i

/-- A request that leaves the references as they are. -/
theorem Ledger.of_holds (h : Ledger infos log t) (hholds : t'.holds = t.holds)
    (hopens : opens (log ++ [⟨request, result⟩]) = opens log)
    (hcloses : ∀ n, 0 < opens log n ∨ (lookup? infos n).isSome →
      closes (log ++ [⟨request, result⟩]) n = closes log n) :
    Ledger infos (log ++ [⟨request, result⟩]) t' := by
  have hmodules : t'.infos = t.infos := by rw [infos_eq_holds, hholds, ← infos_eq_holds]
  have hsame : outstanding (log ++ [⟨request, result⟩]) = outstanding log := by
    funext n
    rw [outstanding, outstanding, hopens]
    rcases Nat.eq_zero_or_pos (opens log n) with hzero | hpos
    · rw [hzero, Nat.zero_sub, Nat.zero_sub]
    · rw [hcloses n (.inl hpos)]
  refine ⟨hmodules.trans h.modules, h.firm.of_holds hholds, fun n hn => ?_, fun n hn => ?_,
    fun i hi => ?_⟩
  · exact h.grounded n (by rwa [hopens] at hn)
  · rw [hopens, hcloses n (.inr hn)]
    exact h.covered n hn
  · rw [count_eq_holds, hholds, ← count_eq_holds, hsame, h.count i hi]

theorem Ledger.openModule (h : Ledger infos log t) (hopen : Openable t.infos name least) :
    Ledger infos (log ++ [⟨.openUp name least, .ok ()⟩]) (t.openModule name least).val.2 := by
  obtain ⟨⟨info, i, hlookup, -⟩, hground⟩ := h.modules ▸ hopen
  have hcovered := h.covered name (by rw [hlookup]; rfl)
  refine ⟨(t.infos_openModule name least).trans h.modules, h.firm.openModule name least,
    fun n hn => ?_, fun n hn => ?_, fun j hj => ?_⟩
  · by_cases hname : n = name
    · exact hname ▸ hground
    · rw [opens_opened, Pi.add_apply, Pi.single_eq_of_ne hname, Nat.add_zero] at hn
      exact h.grounded n hn
  · rw [opens_opened, closes_other (by simp), Pi.add_apply]
    exact Nat.le_add_right_of_le (h.covered n hn)
  · rw [outstanding_opened hcovered, owing_add_single hlookup, ← h.count j hj, ← h.modules]
    exact count_openModule hopen (h.modules ▸ hj)

theorem Ledger.closeModule (h : Ledger infos log t) {p : ModuleInfo × Nat}
    (hlookup : lookup? infos name = some p) (hheld : closes log name < opens log name) :
    Ledger infos (log ++ [⟨.close name, result⟩]) (t.closeModule name).val.2 ∧
      skipped (t.closeModule name) = [] := by
  have hknown : ∀ d ∈ [name], ∃ p, lookup? t.infos d = some p := fun d hd =>
    ⟨p, by rwa [List.mem_singleton.1 hd, h.modules]⟩
  have hopens : opens (log ++ [⟨.close name, result⟩]) = opens log := opens_other (by simp)
  have hcount : ∀ i < t.infos.length, (t.count i : ℕ∞) =
      owing infos (outstanding (log ++ [⟨.close name, result⟩])) i +
        ([name].map fun d => ways t.infos d i).sum := by
    intro i hi
    rw [h.modules] at hi ⊢
    rw [h.count i hi, outstanding_closed result hheld, owing_add_single hlookup,
      List.map_singleton, List.sum_singleton]
  obtain ⟨hskipped, hcount'⟩ := closeAll_exact h.firm.supplied hknown hcount
  refine ⟨⟨(t.infos_closeAll [name]).trans h.modules, h.firm.closeModule name, fun n hn => ?_,
    fun n hn => ?_, fun i hi => hcount' i (h.modules ▸ hi)⟩, hskipped⟩
  · exact h.grounded n (by rwa [hopens] at hn)
  · rw [hopens, closes_closed, Pi.add_apply]
    by_cases hname : n = name
    · subst hname
      rw [Pi.single_eq_same]
      exact hheld
    · rw [Pi.single_eq_of_ne hname, Nat.add_zero]
      exact h.covered n hn

/-- **One request** keeps the ledger, unless it closes a module that nobody opened. -/
theorem Ledger.handle (h : Ledger infos log t) (request : Request)
    (hbalanced : ∀ name, request = .close name → (lookup? infos name).isSome →
      closes log name < opens log name) :
    Ledger infos (log ++ [⟨request, (t.handle request).val.1⟩]) (t.handle request).val.2 ∧
      skipped (t.handle request) = [] := by
  cases request with
  | openUp name least =>
    refine ⟨?_, skipped_openModule t name least⟩
    by_cases hopen : Openable t.infos name least
    · rw [show (t.handle (.openUp name least)).val.1 = .ok () from openModule_ok_iff.2 hopen]
      exact h.openModule hopen
    · obtain ⟨⟨e, herror, -⟩, hholds⟩ := openModule_of_not_openable hopen
      rw [show (t.handle (.openUp name least)).val.1 = .error e from herror]
      exact h.of_holds hholds (opens_other (by simp)) fun n _ => by rw [closes_other (by simp)]
  | close name =>
    cases hlookup : lookup? infos name with
    | some p => exact h.closeModule hlookup (hbalanced name rfl (by rw [hlookup]; rfl))
    | none =>
      have hunknown : lookup? t.infos name = none := h.modules ▸ hlookup
      have hclose := closeModule_of_lookup? hunknown
      have hunopened : ∀ n, 0 < opens log n ∨ (lookup? infos n).isSome → n ≠ name := by
        rintro n (hn | hn) rfl
        · obtain ⟨p, hp⟩ := (h.grounded n hn).known n .refl
          exact Option.some_ne_none p (hp.symm.trans hlookup)
        · rw [hlookup] at hn
          cases hn
      simp only [ModuleTable.handle, hclose]
      refine ⟨h.of_holds rfl (opens_other (by simp)) fun n hn => ?_, rfl⟩
      rw [closes_closed, Pi.add_apply, Pi.single_eq_of_ne (hunopened n hn), Nat.add_zero]
  | expunge name =>
    exact ⟨h.of_holds (t.holds_expunge name) (opens_other (by simp)) fun n _ => by
      rw [closes_other (by simp)], skipped_expunge t name⟩

/-- The first module with a name, among the entries and among what they are. -/
theorem find?_entry (entries : List ModuleEntry) (name : String) (k : Nat) :
    entries.find? (fun e => e.info.name = name) =
      (((entries.map ModuleEntry.info).zipIdx k).find? fun p => p.1.name = name).bind
        fun p => entries[p.2 - k]? := by
  induction entries generalizing k with
  | nil => rfl
  | cons e entries ih =>
    rw [List.map_cons, List.zipIdx_cons, List.find?_cons, List.find?_cons]
    by_cases hname : e.info.name = name
    · simp [hname]
    · simp only [hname, decide_false]
      rw [ih (k + 1)]
      refine Option.bind_congr fun p hp => ?_
      have hle := List.le_snd_of_mem_zipIdx (List.mem_of_find?_eq_some hp)
      rw [show p.2 - k = p.2 - (k + 1) + 1 by omega, List.getElem?_cons_succ]

theorem openCount?_eq (t : ModuleTable) (name : String) :
    t.openCount? name = (t.place? name).map t.count := by
  rw [openCount?, entry?, find?_entry t.entries name 0, ← infos, ← lookup?, place?]
  cases hlookup : lookup? t.infos name with
  | none => rfl
  | some p =>
    obtain ⟨e, he, -⟩ := getElem?_of_place? (place?_of_lookup? hlookup)
    simp [he, count_of_getElem? he]

theorem Ledger.openCount? (h : Ledger infos log t) (name : String) :
    (t.openCount? name).map Nat.cast =
      (lookup? infos name).map fun p => owing infos (outstanding log) p.2 := by
  rw [openCount?_eq, place?, h.modules]
  cases hlookup : lookup? infos name with
  | none => rfl
  | some p =>
    obtain ⟨hlt, -⟩ := List.getElem?_eq_some_iff.1 (lookup?_eq_some hlookup).1
    exact congrArg some (h.count p.2 hlt)

end RealModeMonitor.ModuleTable
