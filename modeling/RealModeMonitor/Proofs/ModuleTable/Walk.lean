import Mathlib.Data.List.Induction
import RealModeMonitor.ModuleTable

/-!
# Opening as a walk

Opening a module goes over its dependencies, and where it goes depends on what the modules are, not
on their counts. So the walk can be looked at by itself (`visit`): it lists the modules in the order
in which they are complete, or stops at the first missing name, cycle or old version.

**Theorem (`openModule_eq`).** To open a module is to take the walk, to load what it completes, and
to add the references if it comes to its end. If it stops, the references that were given up to
there are taken back one by one, and that leaves none of them (`foldl_release_addReferences`).
-/

namespace RealModeMonitor.ModuleTable

/-! ## The walk -/

/-- How far a walk came: the places of the modules that are complete, in order, and why it
stopped if it did. -/
structure Walk where
  complete : List Nat
  error : Option MonitorError := none
  deriving DecidableEq

mutual

/-- Walk the module called `name`, of at least version `least`. `unvisited` are the places that
are not on the way here, so a module outside it closes a cycle. -/
def visit (infos : List ModuleInfo) (unvisited : List Nat) (name : String) (least : UInt32) :
    Walk :=
  match lookup? infos name with
  | none => ⟨[], some (.moduleNotFound name)⟩
  | some (info, i) =>
    if i ∈ unvisited then
      if info.version < least then
        ⟨[], some (.moduleVersion info.name info.version least)⟩
      else
        let walk := visitAll infos (unvisited.erase i) info.deps
        match walk.error with
        | none => ⟨walk.complete ++ [i], none⟩
        | some _ => walk
    else ⟨[], some (.moduleCycle info.name)⟩
termination_by (unvisited.length, 0)
decreasing_by
  have := List.length_erase_of_mem ‹i ∈ unvisited›
  have := List.length_pos_of_mem ‹i ∈ unvisited›
  exact Prod.Lex.left _ _ (by omega)

/-- Walk modules one after the other, of any version. -/
def visitAll (infos : List ModuleInfo) (unvisited : List Nat) (names : List String) : Walk :=
  match names with
  | [] => ⟨[], none⟩
  | name :: rest =>
    let walk := visit infos unvisited name 0
    match walk.error with
    | some _ => walk
    | none =>
      let others := visitAll infos unvisited rest
      ⟨walk.complete ++ others.complete, others.error⟩
termination_by (unvisited.length, names.length + 1)
decreasing_by
  · exact Prod.Lex.right _ (by omega)
  · exact Prod.Lex.right _ (by simp)

end

/-- The walk from the module called `name`. -/
def walk (t : ModuleTable) (name : String) (least : UInt32) : Walk :=
  visit t.infos (List.range t.entries.length) name least

/-- What a walk gives as a result. -/
def Walk.result (w : Walk) : Except MonitorError Unit :=
  match w.error with
  | some e => .error e
  | none => .ok ()

/-! ## References -/

/-- One more reference to each module, for each time its place is listed. -/
def addReferences (t : ModuleTable) (places : List Nat) : ModuleTable :=
  ⟨t.entries.mapIdx fun i e => { e with openCount := e.openCount + places.count i }⟩

theorem ext_getElem? {t t' : ModuleTable} (h : ∀ j : Nat, t.entries[j]? = t'.entries[j]?) :
    t = t' :=
  congrArg ModuleTable.mk (List.ext_getElem? h)

variable (t : ModuleTable) (i : Nat) (places places' : List Nat)

theorem getElem?_addReferences (j : Nat) :
    (t.addReferences places).entries[j]? =
      (t.entries[j]?).map fun e => { e with openCount := e.openCount + places.count j } :=
  List.getElem?_mapIdx

theorem getElem?_refer (j : Nat) :
    (t.refer i).entries[j]? =
      (t.entries[j]?).map fun e =>
        if i = j then { e with openCount := e.openCount + 1 } else e := by
  rw [refer, List.getElem?_modify]
  rfl

theorem getElem?_release (j : Nat) :
    (t.release i).entries[j]? =
      (t.entries[j]?).map fun e =>
        if i = j then { e with openCount := e.openCount - 1 } else e := by
  rw [release, List.getElem?_modify]
  rfl

theorem infos_addReferences : (t.addReferences places).infos = t.infos := by
  refine List.ext_getElem? fun j => ?_
  simp [addReferences, infos, Function.comp_def]

theorem addReferences_nil : t.addReferences [] = t := by
  refine ext_getElem? fun j => ?_
  rw [getElem?_addReferences]
  exact Option.map_id_apply

theorem addReferences_addReferences :
    (t.addReferences places).addReferences places' = t.addReferences (places ++ places') := by
  refine ext_getElem? fun j => ?_
  simp only [getElem?_addReferences, Option.map_map, List.count_append, ← Nat.add_assoc]
  rfl

theorem refer_eq : t.refer i = t.addReferences [i] := by
  refine ext_getElem? fun j => ?_
  rw [getElem?_addReferences, getElem?_refer, List.count_singleton]
  refine congrArg (fun f => (t.entries[j]?).map f) (funext fun e => ?_)
  by_cases hij : i = j <;> simp [hij]

/-- A reference that was given last is taken back. -/
theorem release_addReferences :
    (t.addReferences (places ++ [i])).release i = t.addReferences places := by
  refine ext_getElem? fun j => ?_
  rw [getElem?_release, getElem?_addReferences, getElem?_addReferences, Option.map_map,
    List.count_append, List.count_singleton]
  refine congrArg (fun f => (t.entries[j]?).map f) (funext fun e => ?_)
  by_cases hij : i = j <;> simp [hij]

theorem foldl_release_addReferences :
    places.reverse.foldl release (t.addReferences places) = t := by
  induction places using List.reverseRecOn with
  | nil => exact t.addReferences_nil
  | append_singleton places i ih =>
    rw [List.reverse_append, List.reverse_singleton, List.singleton_append, List.foldl_cons,
      release_addReferences, ih]

/-! ## Loading -/

/-- The modules with their numbers of references, whether or not they are loaded. -/
def holds (t : ModuleTable) : List (ModuleInfo × Nat) :=
  t.entries.map fun e => (e.info, e.openCount)

theorem infos_eq_holds : t.infos = t.holds.map Prod.fst := by
  simp [infos, holds, Function.comp_def]

/-- Marking a module loaded or not. -/
theorem holds_set {i : Nat} {e : ModuleEntry} (he : t.entries[i]? = some e) (loaded : Bool) :
    holds ⟨t.entries.set i { e with loaded }⟩ = t.holds := by
  refine List.ext_getElem? fun j => ?_
  simp only [holds, List.getElem?_map, List.getElem?_set]
  split
  next hij =>
    subst hij
    obtain ⟨hlt, -⟩ := List.getElem?_eq_some_iff.1 he
    rw [if_pos hlt, he]
    rfl
  next => rfl

theorem holds_load : (t.load i).val.holds = t.holds := by
  unfold load
  split
  next e he =>
    split
    · rfl
    · exact t.holds_set he true
  next => rfl

theorem holds_loadAll : (places.foldlM load t).val.holds = t.holds := by
  induction places generalizing t with
  | nil => rfl
  | cons i places ih => exact (ih _).trans (t.holds_load i)

theorem infos_loadAll : (places.foldlM load t).val.infos = t.infos := by
  rw [infos_eq_holds, holds_loadAll, ← infos_eq_holds]

/-- References do not matter to loading. -/
theorem load_addReferences :
    (t.addReferences places).load i = (fun t => t.addReferences places) <$> t.load i := by
  unfold load
  rw [getElem?_addReferences]
  cases he : t.entries[i]? with
  | none => rfl
  | some e =>
    simp only [Option.map_some]
    split
    · rfl
    · simp only [map_bind, map_pure]
      refine congrArg _ (funext fun _ => congrArg pure (ext_getElem? fun j => ?_))
      obtain ⟨hlt, -⟩ := List.getElem?_eq_some_iff.1 he
      rw [getElem?_addReferences, List.getElem?_set, List.getElem?_set, getElem?_addReferences]
      by_cases hij : i = j
      · subst hij
        simp [addReferences, hlt]
      · rw [if_neg hij, if_neg hij]

theorem loadAll_addReferences :
    places'.foldlM load (t.addReferences places) =
      (fun t => t.addReferences places) <$> places'.foldlM load t := by
  induction places' generalizing t with
  | nil => rfl
  | cons i places' ih =>
    rw [List.foldlM_cons, List.foldlM_cons, load_addReferences, bind_map_left, map_bind]
    exact congrArg _ (funext fun t => ih t)

/-! ## Opening takes the walk -/

namespace Opening

/-- The references along a walk are given. -/
def take (s : Opening) (w : Walk) : Traced (Except MonitorError Unit × Opening) := do
  let t ← w.complete.foldlM load s.table
  return (w.result, ⟨t.addReferences w.complete, w.complete.reverse ++ s.opened⟩)

theorem infos_take (s : Opening) (w : Walk) :
    (s.take w).val.2.table.infos = s.table.infos := by
  show (ModuleTable.addReferences _ _).infos = _
  rw [infos_addReferences, infos_loadAll]

/-- A walk that stops at once. -/
theorem take_stopped (s : Opening) (e : MonitorError) :
    s.take ⟨[], some e⟩ = pure (.error e, s) := by
  show pure (_, (⟨s.table.addReferences [], s.opened⟩ : Opening)) = _
  rw [addReferences_nil]

theorem take_nil (s : Opening) : s.take ⟨[], none⟩ = pure (.ok (), s) := by
  show pure (_, (⟨s.table.addReferences [], s.opened⟩ : Opening)) = _
  rw [addReferences_nil]

/-- One walk after another. -/
theorem take_take (s : Opening) (w w' : Walk) :
    (s.take w >>= fun x => x.2.take w') = s.take ⟨w.complete ++ w'.complete, w'.error⟩ := by
  simp only [take, bind_assoc, pure_bind, List.foldlM_append, loadAll_addReferences, bind_map_left,
    addReferences_addReferences, List.reverse_append, List.append_assoc]
  rfl

theorem complete_eq (s : Opening) (i : Nat) :
    (do return (.ok (), ← s.complete i)) = s.take ⟨[i], none⟩ := by
  simp only [complete, take, bind_assoc, pure_bind, List.foldlM_cons, List.foldlM_nil, bind_pure,
    refer_eq]
  rfl

variable {s : Opening} {w : Walk} {e : MonitorError}

theorem take_ok (h : w.error = none) : (s.take w).val.1 = .ok () := by
  show w.result = _
  rw [Walk.result, h]

theorem take_error (h : w.error = some e) : (s.take w).val.1 = .error e := by
  show w.result = _
  rw [Walk.result, h]

end Opening

/-- Opening takes the walk. -/
theorem enter_eq (infos : List ModuleInfo) (unvisited : List Nat) (name : String) (least : UInt32) :
    ∀ s : Opening, s.table.infos = infos →
      s.enter unvisited name least = s.take (visit infos unvisited name least) := by
  refine visit.induct infos
    (fun unvisited name least => ∀ s : Opening, s.table.infos = infos →
      s.enter unvisited name least = s.take (visit infos unvisited name least))
    (fun unvisited names => ∀ s : Opening, s.table.infos = infos →
      s.enterAll unvisited names = s.take (visitAll infos unvisited names))
    ?unknown ?old ?complete ?stopped ?cycle ?nil ?failed ?cons unvisited name least
  case unknown =>
    intro unvisited name least h s hs
    rw [Opening.enter, visit, hs, h, Opening.take_stopped]
  case old =>
    intro unvisited name least info i h hmem hold s hs
    simp only [Opening.enter, visit, hs, h, if_pos hmem, if_pos hold, Opening.take_stopped]
  case complete =>
    intro unvisited name least info i h hmem hold walk hwalk ih s hs
    simp only [walk] at hwalk
    simp only [Opening.enter, visit, hs, h, if_pos hmem, if_neg hold, ih s hs, hwalk]
    refine .trans (Traced.bind_congr_val ?_) (s.take_take _ ⟨[i], none⟩)
    simp only [Opening.take_ok hwalk, Opening.complete_eq]
  case stopped =>
    intro unvisited name least info i h hmem hold walk e hwalk ih s hs
    simp only [walk] at hwalk
    simp only [Opening.enter, visit, hs, h, if_pos hmem, if_neg hold, ih s hs, hwalk]
    refine .trans (Traced.bind_congr_val (g := pure) ?_) (bind_pure _)
    simp only [Opening.take_error hwalk]
    rw [← Opening.take_error (s := s) hwalk]
  case cycle =>
    intro unvisited name least info i h hmem s hs
    simp only [Opening.enter, visit, hs, h, if_neg hmem, Opening.take_stopped]
  case nil =>
    intro unvisited s hs
    simp only [Opening.enterAll, visitAll, Opening.take_nil]
  case failed =>
    intro unvisited name rest walk e hwalk ih s hs
    simp only [walk] at hwalk
    simp only [Opening.enterAll, visitAll, ih s hs, hwalk]
    refine .trans (Traced.bind_congr_val (g := pure) ?_) (bind_pure _)
    simp only [Opening.take_error hwalk]
    rw [← Opening.take_error (s := s) hwalk]
  case cons =>
    intro unvisited name rest walk hwalk ih ih' s hs
    simp only [walk] at hwalk
    simp only [Opening.enterAll, visitAll, ih s hs, hwalk]
    refine .trans (Traced.bind_congr_val ?_) (s.take_take _ (visitAll infos unvisited rest))
    simp only [Opening.take_ok hwalk]
    exact ih' _ ((s.infos_take _).trans hs)

/-- **Opening** a module takes its walk, and keeps the references if the walk comes to its end. -/
theorem openModule_eq (t : ModuleTable) (name : String) (least : UInt32) :
    t.openModule name least = do
      let walk := t.walk name least
      let t ← walk.complete.foldlM load t
      return match walk.error with
        | some e => (.error e, t)
        | none => (.ok (), t.addReferences walk.complete) := by
  rw [openModule, enter_eq t.infos _ _ _ _ rfl, Opening.take, ← walk]
  simp only [bind_assoc, pure_bind]
  refine congrArg _ (funext fun t' => congrArg pure ?_)
  unfold Walk.result
  cases (t.walk name least).error with
  | some e => simp only [Opening.undo, List.append_nil, foldl_release_addReferences]
  | none => rfl

end RealModeMonitor.ModuleTable
