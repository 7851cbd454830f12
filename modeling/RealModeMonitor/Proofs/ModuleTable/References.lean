import Mathlib
import RealModeMonitor.Proofs.ModuleTable.Walk

/-!
# References along dependency paths

Opening a module gives one reference to each module for every dependency path that leads there
(`paths`), and closing takes the same references back. `Counts t f` says that `t` is the table of
built-in modules where `f name` references are held to the module called `name`.

**Opening** adds the paths from the module (`Counts.openModule`), unless it fails, and then no count
changes (`holds_openModule_error`).

**Closing** works off a list of names. If what the modules that are held depend on is in the table,
all that it comes to is (`Supplied.closeAll_induction`). As long as the references that the names
stand for are held, no name is skipped, and each step trades the paths from a name for one reference
and the paths from what the module depends on (`Counts.closeAll`).
-/

namespace RealModeMonitor.ModuleTable

/-! ## Paths -/

/-- What the module called `name` depends on directly. -/
def dependencies (infos : List ModuleInfo) (name : String) : List String :=
  ((lookup? infos name).map fun (info, _) => info.deps).getD []

/-- The number of dependency paths of at most `n` steps. A module reaches itself in no step. -/
def pathsWithin (infos : List ModuleInfo) : Nat → String → String → Nat
  | 0, a, b => if a = b then 1 else 0
  | n + 1, a, b =>
    (if a = b then 1 else 0) + ((dependencies infos a).map fun d => pathsWithin infos n d b).sum

/-- The number of dependency paths from one built-in module to another. A path comes to no module
twice, so it has fewer steps than there are modules. -/
def paths (a b : String) : Nat := pathsWithin builtin builtin.length a b

-- Over the controller, and directly.
example : paths "pit" "vm" = 2 := by decide

/-- The built-in module called `name`. -/
def IsBuiltin (name : String) : Prop := name ∈ builtin.map ModuleInfo.name

instance (name : String) : Decidable (IsBuiltin name) := inferInstanceAs (Decidable (_ ∈ _))

theorem paths_self : ∀ info ∈ builtin, paths info.name info.name = 1 := by decide

/-- A path is empty or starts with a step to a dependency. -/
theorem paths_eq : ∀ info ∈ builtin, ∀ target ∈ builtin,
    paths info.name target.name =
      (if info.name = target.name then 1 else 0) +
        (info.deps.map fun d => paths d target.name).sum := by
  decide

theorem isBuiltin_deps : ∀ info ∈ builtin, ∀ d ∈ info.deps, IsBuiltin d := by decide

theorem lookup?_builtin : ∀ p ∈ builtin.zipIdx, lookup? builtin p.1.name = some p := by decide

theorem lookup?_of_getElem? {info : ModuleInfo} {i : Nat} (h : builtin[i]? = some info) :
    lookup? builtin info.name = some (info, i) :=
  lookup?_builtin (info, i) (List.mem_zipIdx_iff_getElem?.2 h)

/-- No two built-in modules have one name. -/
theorem name_eq_iff {info info' : ModuleInfo} {i j : Nat} (h : builtin[i]? = some info)
    (h' : builtin[j]? = some info') : info.name = info'.name ↔ i = j := by
  constructor
  · intro hname
    have hlookup := lookup?_of_getElem? h
    rw [hname, lookup?_of_getElem? h'] at hlookup
    exact (Prod.mk.inj (Option.some.inj hlookup)).2.symm
  · rintro rfl
    rw [h] at h'
    rw [Option.some.inj h']

/-! ## The walk -/

theorem lookup?_eq_some {infos : List ModuleInfo} {name : String} {info : ModuleInfo} {i : Nat}
    (h : lookup? infos name = some (info, i)) : infos[i]? = some info ∧ info.name = name := by
  have hname := List.find?_some h
  have hmem := List.mem_of_find?_eq_some h
  rw [List.mem_zipIdx_iff_getElem?] at hmem
  exact ⟨hmem, by simpa using hname⟩

section

variable {infos : List ModuleInfo} {target info : ModuleInfo} {unvisited : List Nat} {name : String}
  {least : UInt32} {i j n : Nat}

theorem dependencies_of_lookup? (h : lookup? infos name = some (info, i)) :
    dependencies infos name = info.deps := by
  rw [dependencies, h]
  rfl

theorem visit_eq (h : lookup? infos name = some (info, i))
    (hend : (visit infos unvisited name least).error = none) :
    i ∈ unvisited ∧ (visitAll infos (unvisited.erase i) info.deps).error = none ∧
      (visit infos unvisited name least).complete =
        (visitAll infos (unvisited.erase i) info.deps).complete ++ [i] := by
  unfold visit at hend ⊢
  simp only [h] at hend ⊢
  split at hend
  next hmem =>
    split at hend
    · cases hend
    · split at hend
      next hdeps => exact ⟨hmem, hdeps, by rw [if_pos hmem, if_neg (by assumption)]⟩
      next hdeps => rw [hdeps] at hend; cases hend
  next => cases hend

theorem visitAll_cons_eq {rest : List String}
    (hend : (visitAll infos unvisited (name :: rest)).error = none) :
    (visit infos unvisited name 0).error = none ∧ (visitAll infos unvisited rest).error = none ∧
      (visitAll infos unvisited (name :: rest)).complete =
        (visit infos unvisited name 0).complete ++ (visitAll infos unvisited rest).complete := by
  rw [visitAll] at hend ⊢
  cases hfirst : (visit infos unvisited name 0).error with
  | none => simpa [hfirst] using hend
  | some e => simp [hfirst] at hend

/-- What holds of the modules that a walk completes, if the walk comes to its end: a module comes
after all that it depends on, and the dependencies come one after the other. -/
theorem visit_ends {P : List Nat → String → UInt32 → List Nat → Prop}
    {Q : List Nat → List String → List Nat → Prop}
    (complete : ∀ unvisited name least info i places, lookup? infos name = some (info, i) →
      i ∈ unvisited → ¬info.version < least → Q (unvisited.erase i) info.deps places →
      P unvisited name least (places ++ [i]))
    (nil : ∀ unvisited, Q unvisited [] [])
    (cons : ∀ unvisited name rest places places', P unvisited name 0 places →
      Q unvisited rest places' → Q unvisited (name :: rest) (places ++ places'))
    (unvisited : List Nat) (name : String) (least : UInt32) :
    (visit infos unvisited name least).error = none →
      P unvisited name least (visit infos unvisited name least).complete := by
  refine visit.induct infos
    (fun unvisited name least => (visit infos unvisited name least).error = none →
      P unvisited name least (visit infos unvisited name least).complete)
    (fun unvisited names => (visitAll infos unvisited names).error = none →
      Q unvisited names (visitAll infos unvisited names).complete)
    ?unknown ?old ?complete ?stopped ?cycle ?nil ?failed ?cons unvisited name least
  case unknown =>
    intro unvisited name least h hend
    rw [visit, h] at hend
    cases hend
  case old =>
    intro unvisited name least info i h hmem hold hend
    rw [visit, h] at hend
    simp [hmem, hold] at hend
  case complete =>
    intro unvisited name least info i h hmem hold walk _ ih hend
    obtain ⟨-, hdeps, hcomplete⟩ := visit_eq h hend
    exact hcomplete ▸ complete unvisited name least info i _ h hmem hold (ih hdeps)
  case stopped =>
    intro unvisited name least info i h _ _ walk e hwalk _ hend
    exact absurd (hwalk.symm.trans (visit_eq h hend).2.1) (by simp)
  case cycle =>
    intro unvisited name least info i h hmem hend
    exact absurd (visit_eq h hend).1 hmem
  case nil =>
    intro unvisited _
    rw [visitAll]
    exact nil unvisited
  case failed =>
    intro unvisited name rest walk e hwalk _ hend
    exact absurd (hwalk.symm.trans (visitAll_cons_eq hend).1) (by simp)
  case cons =>
    intro unvisited name rest walk _ ih ih' hend
    obtain ⟨hfirst, hrest, hcomplete⟩ := visitAll_cons_eq hend
    exact hcomplete ▸ cons unvisited name rest _ _ (ih hfirst) (ih' hrest)

/-- A walk that comes to its end completes a module once for every path that leads there. With
every module on the way one less is left to visit, so no path is longer than `n`. -/
theorem count_visit (hj : lookup? infos target.name = some (target, j)) (unvisited : List Nat)
    (name : String) (least : UInt32) (n : Nat) (hn : unvisited.length ≤ n)
    (hend : (visit infos unvisited name least).error = none) :
    (visit infos unvisited name least).complete.count j = pathsWithin infos n name target.name := by
  refine visit_ends
    (P := fun unvisited name _ places => ∀ n, unvisited.length ≤ n →
      places.count j = pathsWithin infos n name target.name)
    (Q := fun unvisited names places => ∀ n, unvisited.length ≤ n →
      places.count j = (names.map fun d => pathsWithin infos n d target.name).sum)
    ?complete ?nil ?cons unvisited name least hend n hn
  case complete =>
    intro unvisited name least info i places h hmem _ ih n hn
    have hlength := List.length_erase_of_mem hmem
    have hpos := List.length_pos_of_mem hmem
    obtain ⟨n, rfl⟩ : ∃ k, n = k + 1 := ⟨n - 1, by omega⟩
    have hself : (if i = j then 1 else 0) = if name = target.name then 1 else 0 := by
      obtain ⟨hi, hname⟩ := lookup?_eq_some h
      by_cases hij : i = j
      · obtain rfl : info = target := by
          have := (lookup?_eq_some hj).1
          rw [← hij, hi] at this
          exact Option.some.inj this
        rw [if_pos hij, if_pos hname.symm]
      · rw [if_neg hij, if_neg]
        intro hsame
        rw [← hsame, h] at hj
        exact hij (Prod.mk.inj (Option.some.inj hj)).2
    rw [List.count_append, ih n (by omega), pathsWithin, dependencies_of_lookup? h, ← hself,
      List.count_singleton, Nat.add_comm]
    simp
  case nil =>
    intro unvisited n _
    rfl
  case cons =>
    intro unvisited name rest places places' hfirst hrest n hn
    rw [List.count_append, hfirst n hn, hrest n hn, List.map_cons, List.sum_cons]

end

/-! ## Counts -/

variable {t t' : ModuleTable} {f g : String → Nat} {name : String} {least : UInt32}

/-- The references to the module at place `i`. -/
def count (t : ModuleTable) (i : Nat) : Nat := ((t.entries[i]?).map ModuleEntry.openCount).getD 0

/-- The table of built-in modules, with `f name` references to the module called `name`. -/
structure Counts (t : ModuleTable) (f : String → Nat) : Prop where
  infos : t.infos = builtin
  count : ∀ i info, builtin[i]? = some info → t.count i = f info.name

theorem count_eq_holds (t : ModuleTable) (i : Nat) :
    t.count i = ((t.holds[i]?).map Prod.snd).getD 0 := by
  simp [count, holds, Function.comp_def]

theorem Counts.of_holds (h : t.Counts f) (hholds : t'.holds = t.holds) : t'.Counts f := by
  refine ⟨?_, fun i info hi => ?_⟩
  · rw [infos_eq_holds, hholds, ← infos_eq_holds, h.infos]
  · rw [count_eq_holds, hholds, ← count_eq_holds, h.count i info hi]

theorem Counts.congr (h : t.Counts f) (hfg : ∀ info ∈ builtin, f info.name = g info.name) :
    t.Counts g :=
  ⟨h.infos, fun i info hi => (h.count i info hi).trans (hfg info (List.mem_of_getElem? hi))⟩

theorem Counts.getElem? (h : t.Counts f) {i : Nat} {info : ModuleInfo}
    (hi : builtin[i]? = some info) :
    ∃ e, t.entries[i]? = some e ∧ e.info = info ∧ e.openCount = f info.name := by
  have hget : t.infos[i]? = some info := by rw [h.infos, hi]
  rw [ModuleTable.infos, List.getElem?_map, Option.map_eq_some_iff] at hget
  obtain ⟨e, he, rfl⟩ := hget
  have hcount := h.count i e.info hi
  rw [ModuleTable.count, he] at hcount
  exact ⟨e, he, rfl, hcount⟩

/-- What stands at the place of a name. -/
theorem Counts.getElem?_place (h : t.Counts f) {i : Nat} {e : ModuleEntry}
    (hplace : t.place? name = some i) (he : t.entries[i]? = some e) :
    builtin[i]? = some e.info ∧ e.info.name = name := by
  obtain ⟨⟨info, _⟩, hlookup, rfl⟩ := Option.map_eq_some_iff.1 hplace
  rw [h.infos] at hlookup
  obtain ⟨hinfo, rfl⟩ := lookup?_eq_some hlookup
  obtain ⟨e', he', rfl, -⟩ := h.getElem? hinfo
  obtain rfl : e = e' := Option.some.inj (he.symm.trans he')
  exact ⟨hinfo, rfl⟩

theorem Counts.openCount? (h : t.Counts f) (hname : IsBuiltin name) :
    t.openCount? name = some (f name) := by
  obtain ⟨info, hinfo, rfl⟩ := List.mem_map.1 hname
  obtain ⟨i, hi⟩ := List.mem_iff_getElem?.1 hinfo
  obtain ⟨e, he, rfl, hcount⟩ := h.getElem? hi
  obtain ⟨hlt, hget⟩ := List.getElem?_eq_some_iff.1 he
  have hentry : t.entry? e.info.name = some e := by
    refine List.find?_eq_some_iff_getElem.2 ⟨by simp, i, hlt, hget, fun j hj => ?_⟩
    have hj' : builtin[j]? = some t.entries[j].info := by
      rw [← h.infos, ModuleTable.infos, List.getElem?_map, List.getElem?_eq_getElem (by omega)]
      rfl
    have hne : t.entries[j].info.name ≠ e.info.name := fun hname =>
      Nat.ne_of_lt hj ((name_eq_iff hj' hi).1 hname)
    simpa using hne
  rw [ModuleTable.openCount?, hentry, Option.map_some, hcount]

/-! ## Opening -/

theorem walk_eq (t : ModuleTable) (name : String) (least : UInt32) :
    t.walk name least = visit t.infos (List.range t.infos.length) name least := by
  rw [walk, infos, List.length_map]

/-- Whether a module can be opened depends on what the modules are, and on nothing else. -/
theorem openModule_cases (t : ModuleTable) (name : String) (least : UInt32) :
    ∃ t' : ModuleTable, t'.holds = t.holds ∧
      ((∃ e, (visit t.infos (List.range t.infos.length) name least).error = some e ∧
          (t.openModule name least).val = (.error e, t')) ∨
        ((visit t.infos (List.range t.infos.length) name least).error = none ∧
          (t.openModule name least).val = (.ok (), t'.addReferences
            (visit t.infos (List.range t.infos.length) name least).complete))) := by
  refine ⟨_, t.holds_loadAll (t.walk name least).complete, ?_⟩
  rw [← walk_eq, openModule_eq]
  simp only [Traced.val_bind, Traced.val_pure]
  cases h : (t.walk name least).error with
  | some e => exact .inl ⟨e, rfl, rfl⟩
  | none => exact .inr ⟨rfl, rfl⟩

theorem count_addReferences {i : Nat} (t : ModuleTable) (places : List Nat)
    (hi : i < t.infos.length) :
    (t.addReferences places).count i = t.count i + places.count i := by
  have hlt : i < t.entries.length := by simpa [infos] using hi
  simp [count, addReferences, hlt]

theorem infos_openModule (t : ModuleTable) (name : String) (least : UInt32) :
    (t.openModule name least).val.2.infos = t.infos := by
  obtain ⟨t', hholds, ⟨e, -, hval⟩ | ⟨-, hval⟩⟩ := t.openModule_cases name least
  · rw [hval, infos_eq_holds, hholds, ← infos_eq_holds]
  · rw [hval, infos_addReferences, infos_eq_holds, hholds, ← infos_eq_holds]

/-- **Opening** gives a reference for every path. -/
theorem Counts.openModule (h : t.Counts f) (hopen : (t.openModule name least).val = (.ok (), t')) :
    IsBuiltin name ∧ t'.Counts fun b => f b + paths name b := by
  obtain ⟨t₁, hholds, ⟨e, -, hval⟩ | ⟨hend, hval⟩⟩ := t.openModule_cases name least
  · rw [hopen] at hval
    cases (Prod.mk.inj hval).1
  · obtain rfl := (Prod.mk.inj (hopen.symm.trans hval)).2
    have h₁ := h.of_holds hholds
    rw [h.infos] at hend ⊢
    refine ⟨?_, by rw [infos_addReferences, h₁.infos], fun i info hi => ?_⟩
    · cases hlookup : lookup? builtin name with
      | none =>
        rw [visit, hlookup] at hend
        cases hend
      | some p =>
        obtain ⟨hp, rfl⟩ := lookup?_eq_some hlookup
        exact List.mem_map_of_mem (List.mem_of_getElem? hp)
    · have hlt : i < t₁.infos.length := by
        rw [h₁.infos]
        exact (List.getElem?_eq_some_iff.1 hi).1
      rw [count_addReferences t₁ _ hlt, h₁.count i info hi,
        count_visit (lookup?_of_getElem? hi) _ name least builtin.length (by simp) hend]
      rfl

/-- Opening that fails changes no count. -/
theorem holds_openModule_error {e : MonitorError}
    (hopen : (t.openModule name least).val = (.error e, t')) : t'.holds = t.holds := by
  obtain ⟨t₁, hholds, ⟨e', -, hval⟩ | ⟨-, hval⟩⟩ := t.openModule_cases name least
  · obtain rfl := (Prod.mk.inj (hopen.symm.trans hval)).2
    exact hholds
  · rw [hopen] at hval
    cases (Prod.mk.inj hval).1

/-- No dependency is missing, and none leads back. -/
theorem visit_builtin : ∀ info ∈ builtin,
    (visit builtin (List.range builtin.length) info.name 0).error = none := by
  have h : (builtin.all fun info =>
      (visit builtin (List.range builtin.length) info.name 0).error = none) = true := by cbv
  simpa using h

/-- Every built-in module can be opened. -/
theorem openModule_ok (h : t.infos = builtin) (hname : IsBuiltin name) :
    (t.openModule name 0).val.1 = .ok () := by
  obtain ⟨info, hinfo, rfl⟩ := List.mem_map.1 hname
  obtain ⟨t', -, ⟨e, hend, -⟩ | ⟨-, hval⟩⟩ := t.openModule_cases info.name 0
  · rw [h, visit_builtin info hinfo] at hend
    cases hend
  · rw [hval]

/-! ## Closing -/

theorem infos_release (t : ModuleTable) (i : Nat) : (t.release i).infos = t.infos := by
  refine List.ext_getElem? fun j => ?_
  simp only [infos, release, List.getElem?_map, List.getElem?_modify]
  cases t.entries[j]? with
  | none => rfl
  | some e => by_cases hij : i = j <;> simp [hij]

theorem count_release (t : ModuleTable) (i j : Nat) :
    (t.release i).count j = t.count j - if i = j then 1 else 0 := by
  simp only [count, release, List.getElem?_modify]
  cases t.entries[j]? with
  | none => simp
  | some e => by_cases hij : i = j <;> simp [hij]

theorem closeAll_nil (t : ModuleTable) : t.closeAll [] = pure (.ok (), t) := by rw [closeAll]

theorem closeAll_unknown (h : t.place? name = none) (rest : List String) :
    t.closeAll (name :: rest) = pure (.error (.moduleNotFound name), t) := by
  rw [closeAll]
  split
  next => rfl
  next hplace => rw [h] at hplace; cases hplace

theorem closeAll_of_place? {i : Nat} {e : ModuleEntry} (hplace : t.place? name = some i)
    (he : t.entries[i]? = some e) (rest : List String) :
    t.closeAll (name :: rest) =
      if 0 < e.openCount then (t.release i).closeAll (e.info.deps.reverse ++ rest)
      else Traced.tell (.moduleNotOpen e.info.name) >>= fun _ => t.closeAll rest := by
  rw [closeAll]
  split
  next h => rw [h] at hplace; cases hplace
  next j h =>
    obtain rfl : j = i := Option.some.inj (h.symm.trans hplace)
    split
    next h' => rw [h'] at he; cases he
    next e' h' =>
      obtain rfl : e' = e := Option.some.inj (h'.symm.trans he)
      rfl

theorem closeAll_held {i : Nat} {e : ModuleEntry} (hplace : t.place? name = some i)
    (he : t.entries[i]? = some e) (hpos : 0 < e.openCount) (rest : List String) :
    t.closeAll (name :: rest) = (t.release i).closeAll (e.info.deps.reverse ++ rest) := by
  rw [closeAll_of_place? hplace he, if_pos hpos]

theorem val_closeAll_skipped {i : Nat} {e : ModuleEntry} (hplace : t.place? name = some i)
    (he : t.entries[i]? = some e) (hzero : ¬0 < e.openCount) (rest : List String) :
    (t.closeAll (name :: rest)).val = (t.closeAll rest).val := by
  rw [closeAll_of_place? hplace he, if_neg hzero, Traced.val_bind]

theorem getElem?_of_place? {i : Nat} (h : t.place? name = some i) :
    ∃ e, t.entries[i]? = some e ∧ e.info.name = name := by
  obtain ⟨⟨info, _⟩, hlookup, rfl⟩ := Option.map_eq_some_iff.1 h
  obtain ⟨hinfo, rfl⟩ := lookup?_eq_some hlookup
  rw [infos, List.getElem?_map, Option.map_eq_some_iff] at hinfo
  obtain ⟨e, he, rfl⟩ := hinfo
  exact ⟨e, he, rfl⟩

theorem count_of_getElem? {i : Nat} {e : ModuleEntry} (he : t.entries[i]? = some e) :
    t.count i = e.openCount := by
  rw [count, he]
  rfl

theorem lookup?_of_place? {i : Nat} {e : ModuleEntry} (hplace : t.place? name = some i)
    (he : t.entries[i]? = some e) : lookup? t.infos name = some (e.info, i) := by
  obtain ⟨⟨info, _⟩, hlookup, rfl⟩ := Option.map_eq_some_iff.1 hplace
  have hget := (lookup?_eq_some hlookup).1
  rw [infos, List.getElem?_map, he] at hget
  rw [hlookup, ← Option.some.inj hget]

theorem place?_of_lookup? {info : ModuleInfo} {i : Nat}
    (h : lookup? t.infos name = some (info, i)) : t.place? name = some i := by
  rw [place?, h]
  rfl

theorem infos_closeAll (t : ModuleTable) (names : List String) :
    (t.closeAll names).val.2.infos = t.infos := by
  induction t, names using closeAll.induct with
  | case1 t => rw [closeAll_nil]; rfl
  | case2 t name rest h => rw [closeAll_unknown h]; rfl
  | case3 t name rest i hi he =>
    obtain ⟨e, he', -⟩ := getElem?_of_place? hi
    rw [he'] at he
    cases he
  | case4 t name rest i hi e he hpos ih => rw [closeAll_held hi he hpos, ih, infos_release]
  | case5 t name rest i hi e he hzero ih => rw [val_closeAll_skipped hi he hzero, ih]

/-- What the modules that are held depend on is in the table. -/
def Supplied (t : ModuleTable) : Prop :=
  ∀ name info i, lookup? t.infos name = some (info, i) → 0 < t.count i →
    ∀ d ∈ info.deps, ∃ p, lookup? t.infos d = some p

theorem Supplied.release (h : t.Supplied) (i : Nat) : (t.release i).Supplied := by
  intro name info j hlookup hpos
  rw [infos_release] at hlookup ⊢
  rw [count_release] at hpos
  exact h name info j hlookup (Nat.lt_of_lt_of_le hpos (Nat.sub_le _ _))

/-- What holds of a close of modules of the table, if what it comes to is always there. -/
theorem Supplied.closeAll_induction {P : ModuleTable → List String → Prop}
    (nil : ∀ t, P t [])
    (held : ∀ t name rest i e, lookup? t.infos name = some (e.info, i) → t.entries[i]? = some e →
      0 < e.openCount → P (t.release i) (e.info.deps.reverse ++ rest) → P t (name :: rest))
    (skipped : ∀ t name rest i e, lookup? t.infos name = some (e.info, i) →
      t.entries[i]? = some e → ¬0 < e.openCount → P t rest → P t (name :: rest))
    {names : List String} (h : t.Supplied) (hnames : ∀ d ∈ names, ∃ p, lookup? t.infos d = some p) :
    P t names := by
  induction t, names using closeAll.induct with
  | case1 t => exact nil t
  | case2 t name rest hplace =>
    obtain ⟨p, hp⟩ := hnames name List.mem_cons_self
    rw [place?, hp] at hplace
    cases hplace
  | case3 t name rest i hi he =>
    obtain ⟨e, he', -⟩ := getElem?_of_place? hi
    rw [he'] at he
    cases he
  | case4 t name rest i hi e he hpos ih =>
    have hlookup := lookup?_of_place? hi he
    refine held t name rest i e hlookup he hpos (ih (h.release i) fun d hd => ?_)
    rw [infos_release]
    rcases List.mem_append.1 hd with hd | hd
    · exact h name e.info i hlookup (by rwa [count_of_getElem? he]) d (List.mem_reverse.1 hd)
    · exact hnames d (List.mem_cons_of_mem _ hd)
  | case5 t name rest i hi e he hzero ih =>
    exact skipped t name rest i e (lookup?_of_place? hi he) he hzero
      (ih h fun d hd => hnames d (List.mem_cons_of_mem _ hd))

theorem Supplied.closeAll_ok {names : List String} (h : t.Supplied)
    (hnames : ∀ d ∈ names, ∃ p, lookup? t.infos d = some p) :
    (t.closeAll names).val.1 = .ok () := by
  refine h.closeAll_induction (P := fun t names => (t.closeAll names).val.1 = .ok ())
    ?nil ?held ?skipped hnames
  case nil =>
    intro t
    rw [closeAll_nil]
    rfl
  case held =>
    intro t name rest i e hlookup he hpos ih
    rwa [closeAll_held (place?_of_lookup? hlookup) he hpos]
  case skipped =>
    intro t name rest i e hlookup he hzero ih
    rwa [val_closeAll_skipped (place?_of_lookup? hlookup) he hzero]

theorem exists_lookup? (hname : IsBuiltin name) : ∃ p, lookup? builtin name = some p := by
  obtain ⟨info, hinfo, rfl⟩ := List.mem_map.1 hname
  obtain ⟨i, hi⟩ := List.mem_iff_getElem?.1 hinfo
  exact ⟨_, lookup?_of_getElem? hi⟩

theorem exists_place? (h : t.infos = builtin) (hname : IsBuiltin name) :
    ∃ i, t.place? name = some i := by
  obtain ⟨p, hp⟩ := exists_lookup? hname
  exact ⟨p.2, by rw [place?, h, hp]; rfl⟩

theorem supplied_builtin (h : t.infos = builtin) : t.Supplied := by
  intro name info i hlookup _ d hd
  rw [h] at hlookup ⊢
  have hmem := List.mem_of_getElem? (lookup?_eq_some hlookup).1
  exact exists_lookup? (isBuiltin_deps _ hmem d hd)

/-- Built-in modules can always be closed, even if they are not open. -/
theorem closeAll_ok {names : List String} (h : t.infos = builtin)
    (hnames : ∀ name ∈ names, IsBuiltin name) : (t.closeAll names).val.1 = .ok () :=
  (supplied_builtin h).closeAll_ok fun d hd => h ▸ exists_lookup? (hnames d hd)

/-- **Closing** takes a reference for every path back, as long as they are all held. -/
theorem Counts.closeAll {names : List String} (hnames : ∀ name ∈ names, IsBuiltin name)
    (h : t.Counts fun b => f b + (names.map fun d => paths d b).sum) :
    (t.closeAll names).val.2.Counts f := by
  refine (supplied_builtin h.infos).closeAll_induction
    (P := fun t names => (t.Counts fun b => f b + (names.map fun d => paths d b).sum) →
      (t.closeAll names).val.2.Counts f)
    ?nil ?held ?skipped (fun d hd => h.infos ▸ exists_lookup? (hnames d hd)) h
  case nil =>
    intro t h
    rw [closeAll_nil]
    exact h
  case held =>
    intro t name rest i e hlookup he hpos ih h
    have hplace := place?_of_lookup? hlookup
    obtain ⟨hinfo, rfl⟩ := h.getElem?_place hplace he
    have hmem := List.mem_of_getElem? hinfo
    rw [closeAll_held hplace he hpos]
    refine ih ⟨by rw [infos_release, h.infos], fun j target hj => ?_⟩
    have hpaths := paths_eq _ hmem target (List.mem_of_getElem? hj)
    have hself : (if e.info.name = target.name then 1 else 0) = if i = j then 1 else 0 :=
      by simp only [name_eq_iff hinfo hj]
    rw [count_release, h.count j target hj, List.map_cons, List.sum_cons, hpaths, hself,
      List.map_append, List.map_reverse, List.sum_append, List.sum_reverse]
    omega
  case skipped =>
    intro t name rest i e hlookup he hzero ih h
    obtain ⟨hinfo, rfl⟩ := h.getElem?_place (place?_of_lookup? hlookup) he
    have hcount := h.count i e.info hinfo
    have hself := paths_self _ (List.mem_of_getElem? hinfo)
    rw [count_of_getElem? he, List.map_cons, List.sum_cons, hself] at hcount
    omega

theorem Counts.closeModule (hname : IsBuiltin name) (h : t.Counts fun b => f b + paths name b) :
    (t.closeModule name).val.2.Counts f := by
  refine Counts.closeAll (fun d hd => ?_) ?_
  · rwa [List.mem_singleton.1 hd]
  · simpa using h

theorem closeModule_unknown (h : t.infos = builtin) (hname : ¬IsBuiltin name) :
    t.closeModule name = pure (.error (.moduleNotFound name), t) := by
  refine closeAll_unknown ?_ []
  rw [place?, Option.map_eq_none_iff, h]
  cases hlookup : lookup? builtin name with
  | none => rfl
  | some p =>
    obtain ⟨hp, rfl⟩ := lookup?_eq_some hlookup
    exact absurd (List.mem_map_of_mem (List.mem_of_getElem? hp)) hname

/-- Exactly the built-in modules can be closed. -/
theorem closeModule_ok_iff (h : t.infos = builtin) :
    (t.closeModule name).val.1 = .ok () ↔ IsBuiltin name := by
  constructor
  · intro hok
    refine Decidable.byContradiction fun hname => ?_
    rw [closeModule_unknown h hname] at hok
    cases hok
  · intro hname
    exact closeAll_ok h fun d hd => by rwa [List.mem_singleton.1 hd]

/-- Closing that fails changes nothing. -/
theorem closeModule_error {e : MonitorError} (h : t.infos = builtin)
    (hclose : (t.closeModule name).val = (.error e, t')) : t' = t := by
  by_cases hname : IsBuiltin name
  · have hok := (closeModule_ok_iff h).2 hname
    rw [hclose] at hok
    cases hok
  · rw [closeModule_unknown h hname] at hclose
    exact (Prod.mk.inj hclose).2.symm

theorem holds_expunge (t : ModuleTable) (name : String) :
    (t.expunge name).val.2.holds = t.holds := by
  unfold expunge
  split
  · rfl
  · split
    next => rfl
    next e he =>
      split
      · rfl
      · split
        · exact t.holds_set he false
        · rfl

end RealModeMonitor.ModuleTable
