import Mathlib.Data.List.Perm.Basic
import RealModeMonitor.Proofs.ModuleTable.References

/-!
# The order of closing

Closing works off a list of names, and the table that comes out depends on which names are in the
list, not on their order (`closeAll_perm`). One name at the head of the list is worth one reference
to its module, if one is held, and the names of what the module depends on (`closeAll_cons`). Two
names in a row take the same references whichever comes first; what they put in front of the list
is the same but for its order.

The argument does not need that the references are held: a name whose module is not open is skipped,
and skipping takes nothing from the names after it.
-/

namespace RealModeMonitor.ModuleTable

variable {t : ModuleTable} {name other : String} {names names' rest : List String} {i j : Nat}

/-! ## One name -/

/-- The table after one name. -/
def release? (t : ModuleTable) (name : String) : ModuleTable :=
  ((t.place? name).map t.release).getD t

/-- The names that one name leaves to be closed. -/
def owed (t : ModuleTable) (name : String) : List String :=
  match (t.place? name).bind fun i => t.entries[i]? with
  | some e => if 0 < e.openCount then e.info.deps.reverse else []
  | none => []

theorem place?_release (t : ModuleTable) (i : Nat) (name : String) :
    (t.release i).place? name = t.place? name := by
  rw [place?, infos_release, place?]

/-- To release what is not held changes nothing. -/
theorem release_unheld {e : ModuleEntry} (he : t.entries[i]? = some e) (h : ¬0 < e.openCount) :
    t.release i = t := by
  have hzero : e.openCount = 0 := Nat.eq_zero_of_not_pos h
  have hentries : (t.release i).entries = t.entries := by
    refine List.ext_getElem? fun j => ?_
    simp only [release, List.getElem?_modify]
    split
    next hij =>
      subst hij
      obtain ⟨info, openCount, loaded⟩ := e
      obtain rfl : openCount = 0 := hzero
      rw [he]
      rfl
    next => exact Option.map_id_apply
  exact congrArg ModuleTable.mk hentries

/-- One name at the head of the list. -/
theorem closeAll_cons (ht : t.infos = builtin) (hname : IsBuiltin name) (rest : List String) :
    (t.closeAll (name :: rest)).val = ((t.release? name).closeAll (t.owed name ++ rest)).val := by
  obtain ⟨i, hplace⟩ := exists_place? ht hname
  obtain ⟨e, he, -⟩ := getElem?_of_place? hplace
  have hrelease : t.release? name = t.release i := by rw [release?, hplace]; rfl
  have howed : t.owed name = if 0 < e.openCount then e.info.deps.reverse else [] := by
    simp only [owed, hplace, Option.bind_some, he]
  rw [hrelease, howed]
  by_cases hpos : 0 < e.openCount
  · rw [closeAll_held hplace he hpos, if_pos hpos]
  · rw [val_closeAll_skipped hplace he hpos, release_unheld he hpos, if_neg hpos]
    rfl

theorem infos_release? (t : ModuleTable) (name : String) : (t.release? name).infos = t.infos := by
  rw [release?]
  cases t.place? name with
  | none => rfl
  | some i => exact t.infos_release i

theorem isBuiltin_owed (ht : t.infos = builtin) : ∀ d ∈ t.owed name, IsBuiltin d := by
  intro d hd
  unfold owed at hd
  split at hd
  next e he =>
    split at hd
    · obtain ⟨i, -, hentry⟩ := Option.bind_eq_some_iff.1 he
      have hmem : e.info ∈ builtin := ht ▸ List.mem_map_of_mem (List.mem_of_getElem? hentry)
      exact isBuiltin_deps _ hmem d (List.mem_reverse.1 hd)
    · cases hd
  next => cases hd

/-- A name uses up references, or leaves nothing to be closed. -/
theorem references_release?_lt (ht : t.infos = builtin) (hname : IsBuiltin name) :
    (t.release? name).references < t.references ∨ t.release? name = t ∧ t.owed name = [] := by
  obtain ⟨i, hplace⟩ := exists_place? ht hname
  obtain ⟨e, he, -⟩ := getElem?_of_place? hplace
  have hrelease : t.release? name = t.release i := by rw [release?, hplace]; rfl
  rw [hrelease]
  by_cases hpos : 0 < e.openCount
  · exact .inl (t.references_release_lt i e he hpos)
  · refine .inr ⟨release_unheld he hpos, ?_⟩
    simp only [owed, hplace, Option.bind_some, he]
    exact if_neg hpos

/-! ## Two names -/

theorem release_comm (t : ModuleTable) (i j : Nat) :
    (t.release i).release j = (t.release j).release i := by
  refine congrArg ModuleTable.mk (List.ext_getElem? fun k => ?_)
  simp only [release, List.getElem?_modify]
  cases t.entries[k]? with
  | none => simp
  | some e => by_cases hik : i = k <;> by_cases hjk : j = k <;> simp [hik, hjk]

theorem release?_comm (t : ModuleTable) (name other : String) :
    (t.release? name).release? other = (t.release? other).release? name := by
  simp only [release?]
  rcases hi : t.place? name with _ | i <;> rcases hj : t.place? other with _ | j <;>
    simp only [Option.map_none, Option.getD_none, Option.map_some, Option.getD_some,
      place?_release, hi, hj, t.release_comm]

/-- What a name leaves to be closed does not depend on another one. -/
theorem owed_release? (ht : t.infos = builtin) (h : name ≠ other) (hname : IsBuiltin name)
    (hother : IsBuiltin other) : (t.release? name).owed other = t.owed other := by
  obtain ⟨i, hi⟩ := exists_place? ht hname
  obtain ⟨j, hj⟩ := exists_place? ht hother
  obtain ⟨e, he, hename⟩ := getElem?_of_place? hi
  obtain ⟨e', he', hename'⟩ := getElem?_of_place? hj
  have hij : i ≠ j := by
    rintro rfl
    obtain rfl := Option.some.inj (he.symm.trans he')
    exact h (hename.symm.trans hename')
  have hrelease : t.release? name = t.release i := by rw [release?, hi]; rfl
  have hentry : (t.release i).entries[j]? = t.entries[j]? := by
    simp only [release, List.getElem?_modify, if_neg hij]
    exact Option.map_id_apply
  rw [hrelease, owed, owed, place?_release, hj, Option.bind_some, Option.bind_some, hentry]

/-! ## Any order -/

theorem isBuiltin_append (h : ∀ d ∈ names, IsBuiltin d) (h' : ∀ d ∈ names', IsBuiltin d) :
    ∀ d ∈ names ++ names', IsBuiltin d := by
  intro d hd
  rcases List.mem_append.1 hd with hd | hd
  · exact h d hd
  · exact h' d hd

/-- Names do not meet, as long as lists for tables with fewer references may be reordered. -/
theorem closeAll_swap (ht : t.infos = builtin) (hname : IsBuiltin name) (hother : IsBuiltin other)
    (hrest : ∀ d ∈ rest, IsBuiltin d)
    (ih : ∀ t' : ModuleTable, t'.references < t.references → t'.infos = builtin →
      ∀ l l' : List String, (∀ d ∈ l, IsBuiltin d) → l.Perm l' →
        (t'.closeAll l).val = (t'.closeAll l').val) :
    (t.closeAll (name :: other :: rest)).val = (t.closeAll (other :: name :: rest)).val := by
  by_cases hne : name = other
  · rw [hne]
  have htwo : ∀ {a b : String}, a ≠ b → IsBuiltin a → IsBuiltin b →
      (t.closeAll (a :: b :: rest)).val =
        (((t.release? a).release? b).closeAll (t.owed b ++ (t.owed a ++ rest))).val := by
    intro a b hab ha hb
    have hfirst : (t.closeAll (a :: b :: rest)).val =
        ((t.release? a).closeAll (b :: (t.owed a ++ rest))).val := by
      rw [closeAll_cons ht ha]
      rcases references_release?_lt ht ha with hlt | ⟨-, hstalled⟩
      · refine ih _ hlt ((t.infos_release? a).trans ht) _ _ ?_ List.perm_middle
        exact isBuiltin_append (isBuiltin_owed ht) (List.forall_mem_cons.2 ⟨hb, hrest⟩)
      · rw [hstalled]
        rfl
    rw [hfirst, closeAll_cons ((t.infos_release? a).trans ht) hb, owed_release? ht hab ha hb]
  rw [htwo hne hname hother, htwo (Ne.symm hne) hother hname, release?_comm]
  rcases references_release?_lt ht hname with hlt | ⟨-, hstalled⟩
  · rcases references_release?_lt ht hother with hlt' | ⟨-, hstalled'⟩
    · have hle : ((t.release? other).release? name).references ≤
          (t.release? other).references := by
        rcases references_release?_lt ((t.infos_release? other).trans ht) hname with h | ⟨h, -⟩
        · exact Nat.le_of_lt h
        · exact Nat.le_of_eq (congrArg references h)
      refine ih _ (Nat.lt_of_le_of_lt hle hlt') ?_ _ _ ?_ ?_
      · rw [infos_release?, infos_release?, ht]
      · exact isBuiltin_append (isBuiltin_owed ht) (isBuiltin_append (isBuiltin_owed ht) hrest)
      · rw [← List.append_assoc, ← List.append_assoc]
        exact List.perm_append_comm.append_right rest
    · rw [hstalled']
      rfl
  · rw [hstalled]
    rfl

/-- **The order of closing** does not matter. The induction is on the references that are left: a
name uses up some, or leaves the table as it is. -/
theorem closeAll_perm (ht : t.infos = builtin) (hnames : ∀ d ∈ names, IsBuiltin d)
    (hperm : names.Perm names') : (t.closeAll names).val = (t.closeAll names').val := by
  induction hn : t.references using Nat.strongRecOn generalizing t names names' with
  | ind n ih =>
    subst hn
    have hfewer : ∀ t' : ModuleTable, t'.references < t.references → t'.infos = builtin →
        ∀ l l' : List String, (∀ d ∈ l, IsBuiltin d) → l.Perm l' →
          (t'.closeAll l).val = (t'.closeAll l').val :=
      fun t' hlt ht' l l' hl hperm => ih _ hlt ht' hl hperm rfl
    induction hperm with
    | nil => rfl
    | @cons name l l' hperm ihperm =>
      obtain ⟨hname, hl⟩ := List.forall_mem_cons.1 hnames
      have hl' : ∀ d ∈ l', IsBuiltin d := fun d hd => hl d (hperm.mem_iff.2 hd)
      rw [closeAll_cons ht hname, closeAll_cons ht hname]
      rcases references_release?_lt ht hname with hlt | ⟨hstays, hstalled⟩
      · exact hfewer _ hlt ((t.infos_release? name).trans ht) _ _
          (isBuiltin_append (isBuiltin_owed ht) hl) (hperm.append_left _)
      · rw [hstays, hstalled]
        exact ihperm hl
    | swap name other l =>
      obtain ⟨hother, hrest⟩ := List.forall_mem_cons.1 hnames
      obtain ⟨hname, hl⟩ := List.forall_mem_cons.1 hrest
      exact closeAll_swap ht hother hname hl hfewer
    | trans hfirst _ ihfirst ihsecond =>
      exact (ihfirst hnames).trans (ihsecond fun d hd => hnames d (hfirst.mem_iff.2 hd))

/-- To close one list and then another is to close both. -/
theorem closeAll_append (ht : t.infos = builtin) (hnames : ∀ d ∈ names, IsBuiltin d)
    (names' : List String) :
    (t.closeAll (names ++ names')).val = ((t.closeAll names).val.2.closeAll names').val := by
  induction hn : t.references using Nat.strongRecOn generalizing t names with
  | ind n ih =>
    subst hn
    induction names with
    | nil =>
      rw [closeAll_nil]
      rfl
    | cons name rest ihrest =>
      obtain ⟨hname, hrest⟩ := List.forall_mem_cons.1 hnames
      rw [List.cons_append, closeAll_cons ht hname, closeAll_cons ht hname]
      rcases references_release?_lt ht hname with hlt | ⟨hstays, hstalled⟩
      · rw [← List.append_assoc]
        exact ih _ hlt ((t.infos_release? name).trans ht)
          (isBuiltin_append (isBuiltin_owed ht) hrest) rfl
      · rw [hstays, hstalled]
        exact ihrest hrest

end RealModeMonitor.ModuleTable
