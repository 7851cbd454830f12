import RealModeMonitor.Proofs.ModuleTable.Opening

/-!
# What is held stands firm

A table serves requests one after the other, from the fresh table on: modules are opened, closed and
unloaded. Whatever the requests are, only modules on firm ground are ever held (`Firm.handleAll`):
opening gives references to such modules alone, and nothing else gives any.

So whatever a close comes to is in the table (`Firm.supplied`). A close of a module of the table
never fails, and it gives back references that are held, one by one (`closeModule_of_firm`). What is
undone after an error are references that are held, too (`givesBack_undo`).
-/

namespace RealModeMonitor.ModuleTable

variable {t t' : ModuleTable} {name : String} {names : List String} {least : UInt32} {i : Nat}

/-! ## Firmness -/

/-- Modules that are held stand on firm ground. -/
def Firm (t : ModuleTable) : Prop :=
  ∀ name info i, lookup? t.infos name = some (info, i) → 0 < t.count i → Grounded t.infos name

theorem Firm.of_count_le (h : t.Firm) (hinfos : t'.infos = t.infos)
    (hcount : ∀ i, t'.count i ≤ t.count i) : t'.Firm := by
  intro name info i hlookup hpos
  rw [hinfos] at hlookup ⊢
  exact h name info i hlookup (Nat.lt_of_lt_of_le hpos (hcount i))

theorem Firm.of_holds (h : t.Firm) (hholds : t'.holds = t.holds) : t'.Firm :=
  h.of_count_le (by rw [infos_eq_holds, hholds, ← infos_eq_holds])
    fun i => by rw [count_eq_holds, hholds, ← count_eq_holds]

theorem Firm.supplied (h : t.Firm) : t.Supplied := by
  intro name info i hlookup hpos d hd
  refine (h name info i hlookup hpos).known d (.single ?_)
  rwa [DependsOn, dependencies_of_lookup? hlookup]

/-! ## Closing -/

/-- One reference that is held is given back. -/
def GivesBack (t t' : ModuleTable) : Prop := ∃ i, 0 < t.count i ∧ t' = t.release i

/-- A close of modules of the table gives back references that are held, one by one. -/
theorem Supplied.givesBack_closeAll (h : t.Supplied)
    (hnames : ∀ d ∈ names, ∃ p, lookup? t.infos d = some p) :
    Relation.ReflTransGen GivesBack t (t.closeAll names).val.2 := by
  refine h.closeAll_induction
    (P := fun t names => Relation.ReflTransGen GivesBack t (t.closeAll names).val.2)
    ?nil ?held ?skipped hnames
  case nil =>
    intro t
    rw [closeAll_nil]
    exact .refl
  case held =>
    intro t name rest i e hlookup he hpos hback
    rw [closeAll_held (place?_of_lookup? hlookup) he hpos]
    exact hback.head ⟨i, by rwa [count_of_getElem? he], rfl⟩
  case skipped =>
    intro t name rest i e hlookup he hzero ih
    rwa [val_closeAll_skipped (place?_of_lookup? hlookup) he hzero]

theorem count_le_of_givesBack (h : Relation.ReflTransGen GivesBack t t') (i : Nat) :
    t'.count i ≤ t.count i := by
  induction h with
  | refl => exact Nat.le_refl _
  | tail _ hstep ih =>
    obtain ⟨j, -, rfl⟩ := hstep
    rw [count_release]
    exact Nat.le_trans (Nat.sub_le _ _) ih

/-- A close of a name that is not in the table changes nothing. -/
theorem closeModule_of_lookup? (h : lookup? t.infos name = none) :
    t.closeModule name = pure (.error (.moduleNotFound name), t) :=
  closeAll_unknown (by rw [place?, h]; rfl) []

theorem closeModule_of_firm (h : t.Firm) (name : String) :
    (t.closeModule name).val.1 =
        (if (lookup? t.infos name).isSome then .ok () else .error (.moduleNotFound name)) ∧
      Relation.ReflTransGen GivesBack t (t.closeModule name).val.2 := by
  cases hlookup : lookup? t.infos name with
  | none =>
    rw [closeModule_of_lookup? hlookup]
    exact ⟨rfl, .refl⟩
  | some p =>
    have hknown : ∀ d ∈ [name], ∃ p, lookup? t.infos d = some p := fun d hd =>
      ⟨p, by rwa [List.mem_singleton.1 hd]⟩
    exact ⟨h.supplied.closeAll_ok hknown, h.supplied.givesBack_closeAll hknown⟩

inductive Request where
  | openUp (name : String) (least : UInt32)
  | close (name : String)
  | expunge (name : String)

/-- A request with its result. -/
structure Answered where
  request : Request
  result : Except MonitorError Unit

def handle (t : ModuleTable) : Request → Traced (Except MonitorError Unit × ModuleTable)
  | .openUp name least => t.openModule name least
  | .close name => t.closeModule name
  | .expunge name => t.expunge name

/-- Requests one after the other. -/
def handleAll (t : ModuleTable) : List Request → Traced (List Answered × ModuleTable)
  | [] => pure ([], t)
  | request :: rest => do
    let (result, t) ← t.handle request
    let (log, t) ← t.handleAll rest
    return (⟨request, result⟩ :: log, t)

theorem count_openModule (h : Openable t.infos name least) (hi : i < t.infos.length) :
    ((t.openModule name least).val.2.count i : ℕ∞) = t.count i + ways t.infos name i := by
  obtain ⟨-, n, hn⟩ := openModule_of_openable h
  obtain ⟨hways, hentry⟩ := hn i
  have hlt : i < t.entries.length := by simpa [ModuleTable.infos] using hi
  rw [count, hentry, List.getElem?_eq_getElem hlt, ← hways, count, List.getElem?_eq_getElem hlt]
  exact Nat.cast_add _ _

theorem Firm.openModule (h : t.Firm) (name : String) (least : UInt32) :
    (t.openModule name least).val.2.Firm := by
  by_cases hopen : Openable t.infos name least
  · intro a info i hlookup hpos
    rw [infos_openModule] at hlookup ⊢
    obtain ⟨hlt, -⟩ := List.getElem?_eq_some_iff.1 (lookup?_eq_some hlookup).1
    by_cases hheld : 0 < t.count i
    · exact h a info i hlookup hheld
    have hways : 0 < ways t.infos name i := by
      have hcount := count_openModule hopen hlt
      rw [Nat.eq_zero_of_not_pos hheld, Nat.cast_zero, zero_add] at hcount
      rw [← hcount]
      exact Nat.cast_pos.2 hpos
    obtain ⟨b, hreach, hb⟩ := ways_pos_iff.1 hways
    obtain ⟨⟨info', _⟩, hlookup', rfl⟩ := Option.map_eq_some_iff.1 hb
    rw [name_of_lookup? hlookup hlookup']
    exact hopen.grounded.reaches hreach
  · exact h.of_holds (openModule_of_not_openable hopen).2

theorem Firm.closeModule (h : t.Firm) (name : String) : (t.closeModule name).val.2.Firm :=
  h.of_count_le (t.infos_closeAll [name]) (count_le_of_givesBack (closeModule_of_firm h name).2)

theorem Firm.handle (h : t.Firm) (request : Request) : (t.handle request).val.2.Firm := by
  cases request with
  | openUp name least => exact h.openModule name least
  | close name => exact h.closeModule name
  | expunge name => exact h.of_holds (t.holds_expunge name)

theorem Firm.handleAll (h : t.Firm) (requests : List Request) :
    (t.handleAll requests).val.2.Firm := by
  induction requests generalizing t with
  | nil => exact h
  | cons request rest ih => exact ih (h.handle request)

end RealModeMonitor.ModuleTable
