import Mathlib.Data.Nat.Cast.Order.Ring
import RealModeMonitor.Proofs.ModuleTable.Routes

/-!
# Opening is all or nothing

Whether a module can be opened is decided by what the modules are, not by how often they are open:
it must be there, be new enough, and stand on **firm ground** (`Grounded`), which is to say that no
name that its dependencies lead to is missing and none leads back to itself.

**The walk.** One that comes to its end has seen firm ground (`grounded_visit`): the places below a
module are looked for among those that are not on the way to it, so none of them is its own. One
that stops has a reason (`cause_visit`): the places on the way all belong to modules above the name
that is looked for, so a name that leads to one of them lies on a circle.

**References.** A walk that comes to its end completes a module once for every route that leads to
it (`count_complete`). The table gains just these references, or none (`openModule_all_or_nothing`).
-/

namespace RealModeMonitor.ModuleTable

/-! ## Firm ground -/

section

variable (infos : List ModuleInfo) (name : String) (least : UInt32)

/-- No name that the dependencies lead to is missing, and none leads back to itself. -/
structure Grounded : Prop where
  known : ∀ b, Reaches infos name b → ∃ p, lookup? infos b = some p
  acyclic : ∀ b, Reaches infos name b → ¬Below infos b b

/-- The module is there, new enough, and on firm ground. -/
structure Openable : Prop where
  version : ∃ info i, lookup? infos name = some (info, i) ∧ least ≤ info.version
  grounded : Grounded infos name

/-- Why a module cannot be opened. -/
inductive Cause : MonitorError → Prop where
  | missing (b : String) : Reaches infos name b → lookup? infos b = none →
      Cause (.moduleNotFound b)
  | old (info : ModuleInfo) (i : Nat) : lookup? infos name = some (info, i) →
      info.version < least → Cause (.moduleVersion info.name info.version least)
  | circle (b : String) : Reaches infos name b → Below infos b b → Cause (.moduleCycle b)

end

variable {infos : List ModuleInfo} {name d : String} {least : UInt32} {info : ModuleInfo}
  {unvisited : List Nat} {i j : Nat} {e : MonitorError}

theorem Grounded.reaches (h : Grounded infos name) (hreach : Reaches infos name d) :
    Grounded infos d :=
  ⟨fun b hb => h.known b (hreach.trans hb), fun b hb => h.acyclic b (hreach.trans hb)⟩

/-- A cause rules out that the module can be opened. -/
theorem Cause.not_openable (h : Cause infos name least e) : ¬Openable infos name least := by
  rintro ⟨⟨info, i, hlookup, hle⟩, hground⟩
  cases h with
  | missing b hreach hnone =>
    obtain ⟨p, hp⟩ := hground.known b hreach
    exact Option.some_ne_none p (hp.symm.trans hnone)
  | old info' i' hlookup' hlt =>
    obtain ⟨rfl, -⟩ := Prod.mk.inj (Option.some.inj (hlookup.symm.trans hlookup'))
    exact absurd hlt (UInt32.not_lt.2 hle)
  | circle b hreach hcircle => exact hground.acyclic b hreach hcircle

/-- What is wrong with a dependency is wrong with the module. -/
theorem Cause.above (h : Cause infos d 0 e) (hstep : DependsOn infos name d) :
    Cause infos name least e := by
  cases h with
  | missing b hreach hnone => exact .missing b (hreach.head hstep) hnone
  | old info i _ hlt => exact absurd hlt (UInt32.not_lt.2 (UInt32.zero_le))
  | circle b hreach hcircle => exact .circle b (hreach.head hstep) hcircle

/-! ## Walks that come to their end -/

/-- All that the dependencies lead to from here has its place in `places`, and no circle is among
it. -/
def GroundedIn (infos : List ModuleInfo) (places : List Nat) (name : String) : Prop :=
  ∀ b, Reaches infos name b →
    (∃ info i, lookup? infos b = some (info, i) ∧ i ∈ places) ∧ ¬Below infos b b

theorem GroundedIn.grounded (h : GroundedIn infos unvisited name) : Grounded infos name := by
  refine ⟨fun b hb => ?_, fun b hb => (h b hb).2⟩
  obtain ⟨⟨info, i, hlookup, -⟩, -⟩ := h b hb
  exact ⟨_, hlookup⟩

/-- What stands below a module has other places than its own. -/
theorem groundedIn_of_deps (hlookup : lookup? infos name = some (info, i)) (hmem : i ∈ unvisited)
    (hnodup : unvisited.Nodup) (hdeps : ∀ d ∈ info.deps, GroundedIn infos (unvisited.erase i) d) :
    GroundedIn infos unvisited name := by
  have hbelow : ∀ {d}, DependsOn infos name d → GroundedIn infos (unvisited.erase i) d :=
    fun hstep => hdeps _ (dependencies_of_lookup? hlookup ▸ hstep)
  intro b hreach
  rcases hreach.cases_head with rfl | ⟨d, hstep, hreach⟩
  · refine ⟨⟨info, i, hlookup, hmem⟩, fun hcircle => ?_⟩
    obtain ⟨d, hstep, hback⟩ := Relation.TransGen.head'_iff.1 hcircle
    obtain ⟨⟨info', i', hlookup', hmem'⟩, -⟩ := hbelow hstep _ hback
    obtain ⟨-, rfl⟩ := Prod.mk.inj (Option.some.inj (hlookup.symm.trans hlookup'))
    exact hnodup.not_mem_erase hmem'
  · obtain ⟨⟨info', i', hlookup', hmem'⟩, hacyclic⟩ := hbelow hstep b hreach
    exact ⟨⟨info', i', hlookup', List.mem_of_mem_erase hmem'⟩, hacyclic⟩

theorem grounded_visit (unvisited : List Nat) (name : String) (least : UInt32)
    (hnodup : unvisited.Nodup) (hend : (visit infos unvisited name least).error = none) :
    GroundedIn infos unvisited name ∧
      ∃ info i, lookup? infos name = some (info, i) ∧ least ≤ info.version := by
  refine visit_ends
    (P := fun unvisited name least _ => unvisited.Nodup → GroundedIn infos unvisited name ∧
      ∃ info i, lookup? infos name = some (info, i) ∧ least ≤ info.version)
    (Q := fun unvisited names _ => unvisited.Nodup → ∀ d ∈ names, GroundedIn infos unvisited d)
    ?complete ?nil ?cons unvisited name least hend hnodup
  case complete =>
    intro unvisited name least info i _ h hmem hold ih hnodup
    have hdeps := ih (hnodup.erase i)
    exact ⟨groundedIn_of_deps h hmem hnodup hdeps, info, i, h, UInt32.not_lt.1 hold⟩
  case nil =>
    intro unvisited _ d hd
    cases hd
  case cons =>
    intro unvisited name rest _ _ hfirst hrest hnodup
    exact List.forall_mem_cons.2 ⟨(hfirst hnodup).1, hrest hnodup⟩

/-- A walk that comes to its end completes a module once for every route that leads to it. -/
theorem count_complete (unvisited : List Nat) (name : String) (least : UInt32) (j : Nat)
    (hend : (visit infos unvisited name least).error = none) :
    ((visit infos unvisited name least).complete.count j : ℕ∞) = ways infos name j := by
  refine visit_ends
    (P := fun _ name _ places => (places.count j : ℕ∞) = ways infos name j)
    (Q := fun _ names places => (places.count j : ℕ∞) = (names.map fun d => ways infos d j).sum)
    ?complete ?nil ?cons unvisited name least hend
  case complete =>
    intro unvisited name least info i places h _ _ ih
    rw [List.count_append, Nat.cast_add, ih, ways_eq, dependencies_of_lookup? h, h,
      List.count_singleton, add_comm]
    simp
  case nil =>
    intro unvisited
    rfl
  case cons =>
    intro unvisited name rest places places' hfirst hrest
    rw [List.count_append, Nat.cast_add, hfirst, hrest, List.map_cons, List.sum_cons]

/-! ## Walks that stop -/

/-- The places that are not left to visit belong to modules above the name. -/
def OnTheWay (infos : List ModuleInfo) (unvisited : List Nat) (name : String) : Prop :=
  ∀ i < infos.length, i ∉ unvisited →
    ∃ a info, lookup? infos a = some (info, i) ∧ Below infos a name

theorem OnTheWay.deps (h : OnTheWay infos unvisited name)
    (hlookup : lookup? infos name = some (info, i)) (hd : d ∈ info.deps) :
    OnTheWay infos (unvisited.erase i) d := by
  have hstep : DependsOn infos name d := by rwa [DependsOn, dependencies_of_lookup? hlookup]
  intro j hj hvisited
  by_cases hij : j = i
  · exact ⟨name, info, hij ▸ hlookup, .single hstep⟩
  · obtain ⟨a, info', ha, hbelow⟩ := h j hj fun hmem => hvisited ((List.mem_erase_of_ne hij).2 hmem)
    exact ⟨a, info', ha, hbelow.tail hstep⟩

/-- A name that leads to a place on the way leads back to itself. -/
theorem OnTheWay.circle (h : OnTheWay infos unvisited name)
    (hlookup : lookup? infos name = some (info, i)) (hmem : i ∉ unvisited) :
    Below infos name name := by
  obtain ⟨hget, -⟩ := lookup?_eq_some hlookup
  obtain ⟨hlt, -⟩ := List.getElem?_eq_some_iff.1 hget
  obtain ⟨a, info', ha, hbelow⟩ := h i hlt hmem
  rwa [name_of_lookup? ha hlookup] at hbelow

/-- A walk that stops has a reason. -/
theorem cause_visit (unvisited : List Nat) (name : String) (least : UInt32) :
    OnTheWay infos unvisited name → ∀ e, (visit infos unvisited name least).error = some e →
      Cause infos name least e := by
  refine visit.induct infos
    (fun unvisited name least => OnTheWay infos unvisited name →
      ∀ e, (visit infos unvisited name least).error = some e → Cause infos name least e)
    (fun unvisited names => (∀ d ∈ names, OnTheWay infos unvisited d) →
      ∀ e, (visitAll infos unvisited names).error = some e → ∃ d ∈ names, Cause infos d 0 e)
    ?unknown ?old ?complete ?stopped ?cycle ?nil ?failed ?cons unvisited name least
  case unknown =>
    intro unvisited name least h _ e he
    rw [visit, h] at he
    obtain rfl := Option.some.inj he
    exact .missing name .refl h
  case old =>
    intro unvisited name least info i h hmem hold _ e he
    simp only [visit, h, if_pos hmem, if_pos hold, Option.some.injEq] at he
    subst he
    exact .old info i h hold
  case complete =>
    intro unvisited name least info i h hmem hold walk hwalk _ _ e he
    simp only [walk] at hwalk
    simp [visit, h, hmem, hold, hwalk] at he
  case stopped =>
    intro unvisited name least info i h hmem hold walk e' hwalk ih hway e he
    simp only [walk] at hwalk
    simp only [visit, h, if_pos hmem, if_neg hold, hwalk, Option.some.injEq] at he
    subst he
    obtain ⟨d, hd, hcause⟩ := ih (fun d hd => hway.deps h hd) e' hwalk
    exact hcause.above (by rwa [DependsOn, dependencies_of_lookup? h])
  case cycle =>
    intro unvisited name least info i h hmem hway e he
    simp only [visit, h, if_neg hmem, Option.some.injEq] at he
    subst he
    obtain ⟨-, rfl⟩ := lookup?_eq_some h
    exact .circle _ .refl (hway.circle h hmem)
  case nil =>
    intro unvisited _ e he
    rw [visitAll] at he
    cases he
  case failed =>
    intro unvisited name rest walk e' hwalk ih hway e he
    simp only [walk] at hwalk
    simp only [visitAll, hwalk, Option.some.injEq] at he
    subst he
    exact ⟨name, List.mem_cons_self, ih (hway name List.mem_cons_self) e' hwalk⟩
  case cons =>
    intro unvisited name rest walk hwalk _ ih hway e he
    simp only [walk] at hwalk
    simp only [visitAll, hwalk] at he
    obtain ⟨d, hd, hcause⟩ := ih (fun d hd => hway d (List.mem_cons_of_mem _ hd)) e he
    exact ⟨d, List.mem_cons_of_mem _ hd, hcause⟩

theorem onTheWay_range (infos : List ModuleInfo) (name : String) :
    OnTheWay infos (List.range infos.length) name :=
  fun _ hi hmem => absurd (List.mem_range.2 hi) hmem

/-- The walk from a name comes to its end exactly if the module can be opened. -/
theorem walk_error_eq_none_iff (t : ModuleTable) (name : String) (least : UInt32) :
    (t.walk name least).error = none ↔ Openable t.infos name least := by
  rw [walk_eq]
  constructor
  · intro hend
    obtain ⟨hground, hversion⟩ := grounded_visit _ name least List.nodup_range hend
    exact ⟨hversion, hground.grounded⟩
  · intro hopen
    cases he : (visit t.infos (List.range t.infos.length) name least).error with
    | none => rfl
    | some e => exact absurd hopen (cause_visit _ _ _ (onTheWay_range _ _) e he).not_openable

/-! ## Loading -/

theorem getElem?_load (t : ModuleTable) (i j : Nat) :
    (t.load i).val.entries[j]? =
      (t.entries[j]?).map fun e => { e with loaded := e.loaded || decide (j = i) } := by
  unfold load
  cases he : t.entries[i]? with
  | none =>
    by_cases hij : j = i
    · simp [hij, he]
    · simp [hij]
  | some e =>
    by_cases hij : j = i
    · subst hij
      obtain ⟨hlt, hget⟩ := List.getElem?_eq_some_iff.1 he
      obtain ⟨info, openCount, loaded⟩ := e
      cases loaded <;> simp [hlt, hget]
    · cases hloaded : e.loaded <;> simp [hloaded, hij, Ne.symm hij]

theorem getElem?_loadAll (t : ModuleTable) (places : List Nat) (j : Nat) :
    (places.foldlM load t).val.entries[j]? =
      (t.entries[j]?).map fun e => { e with loaded := e.loaded || decide (j ∈ places) } := by
  induction places generalizing t with
  | nil => simp
  | cons i places ih =>
    rw [List.foldlM_cons, Traced.val_bind, ih, getElem?_load, Option.map_map]
    simp [Function.comp_def, Bool.or_assoc]

/-! ## Opening -/

variable {t : ModuleTable}

/-- Every module gets as many references as there are routes to it, and those that get some are
loaded. -/
theorem openModule_of_openable (h : Openable t.infos name least) :
    (t.openModule name least).val.1 = .ok () ∧ ∃ n : Nat → Nat, ∀ i,
      (n i : ℕ∞) = ways t.infos name i ∧
        (t.openModule name least).val.2.entries[i]? = (t.entries[i]?).map fun e =>
          { e with openCount := e.openCount + n i, loaded := e.loaded || decide (0 < n i) } := by
  have hend := (walk_error_eq_none_iff t name least).2 h
  rw [openModule_eq]
  simp only [Traced.val_bind, Traced.val_pure, hend]
  refine ⟨trivial, fun i => (t.walk name least).complete.count i, fun i => ⟨?_, ?_⟩⟩
  · rw [walk_eq] at hend ⊢
    exact count_complete _ _ _ i hend
  · rw [getElem?_addReferences, getElem?_loadAll, Option.map_map]
    simp only [List.count_pos_iff, Function.comp_def]

/-- No count changes, and there is a reason. -/
theorem openModule_of_not_openable (h : ¬Openable t.infos name least) :
    (∃ e, (t.openModule name least).val.1 = .error e ∧ Cause t.infos name least e) ∧
      (t.openModule name least).val.2.holds = t.holds := by
  rw [openModule_eq]
  simp only [Traced.val_bind, Traced.val_pure]
  cases hend : (t.walk name least).error with
  | none => exact absurd ((walk_error_eq_none_iff t name least).1 hend) h
  | some e =>
    refine ⟨⟨e, rfl, ?_⟩, t.holds_loadAll _⟩
    rw [walk_eq] at hend
    exact cause_visit _ _ _ (onTheWay_range _ _) e hend

theorem openModule_ok_iff :
    (t.openModule name least).val.1 = .ok () ↔ Openable t.infos name least := by
  constructor
  · intro hok
    by_contra h
    obtain ⟨⟨e, he, -⟩, -⟩ := openModule_of_not_openable h
    rw [hok] at he
    cases he
  · exact fun h => (openModule_of_openable h).1

/-- **Opening is all or nothing.** -/
theorem openModule_all_or_nothing (t : ModuleTable) (name : String) (least : UInt32) :
    ((t.openModule name least).val.1 = .ok () ↔ Openable t.infos name least) ∧
      (Openable t.infos name least → ∃ n : Nat → Nat, ∀ i,
        (n i : ℕ∞) = ways t.infos name i ∧
          (0 < n i ↔
            ∃ b, Reaches t.infos name b ∧ (lookup? t.infos b).map Prod.snd = some i) ∧
          (t.openModule name least).val.2.entries[i]? = (t.entries[i]?).map fun e =>
            { e with openCount := e.openCount + n i, loaded := e.loaded || decide (0 < n i) }) ∧
      (¬Openable t.infos name least →
        (∃ e, (t.openModule name least).val.1 = .error e ∧ Cause t.infos name least e) ∧
          (t.openModule name least).val.2.holds = t.holds) := by
  refine ⟨openModule_ok_iff, fun h => ?_, openModule_of_not_openable⟩
  obtain ⟨-, n, hn⟩ := openModule_of_openable h
  refine ⟨n, fun i => ⟨(hn i).1, ?_, (hn i).2⟩⟩
  rw [← ways_pos_iff, ← (hn i).1]
  exact Nat.cast_pos.symm

/-- Three routes lead from the top to the base, and the ring opens all of it before it finds itself.
-/
def forked : List ModuleInfo :=
  [⟨"base", 1, []⟩, ⟨"left", 1, ["base"]⟩, ⟨"right", 1, ["base", "base"]⟩,
    ⟨"top", 2, ["left", "right"]⟩, ⟨"base", 2, ["ring"]⟩, ⟨"ring", 1, ["top", "ring"]⟩]

/-- The top is opened with three references to the base, the ring without any. -/
theorem openModule_forked :
    (Openable forked "top" 2 ∧ ways forked "top" 0 = 3 ∧
      (((ofInfos forked).openModule "top" 2).val.2.openCount? "base") = some 3) ∧
    ¬Openable forked "ring" 0 ∧
      ((ofInfos forked).openModule "ring" 0).val.2.holds = (ofInfos forked).holds := by
  obtain ⟨htop, hopened, -⟩ := openModule_all_or_nothing (ofInfos forked) "top" 2
  obtain ⟨hring, -, hkept⟩ := openModule_all_or_nothing (ofInfos forked) "ring" 0
  have hopen : Openable forked "top" 2 := htop.1 (by cbv)
  have hclosed : ¬Openable forked "ring" 0 := fun h => by
    have hok := hring.2 h
    have herror : ((ofInfos forked).openModule "ring" 0).val.1 = .error (.moduleCycle "ring") := by
      cbv
    rw [herror] at hok
    cases hok
  obtain ⟨n, hn⟩ := hopened hopen
  have hentry : ((ofInfos forked).openModule "top" 2).val.2.entries[0]? =
      some ⟨⟨"base", 1, []⟩, 3, true⟩ := by cbv
  have hcount : n 0 = 3 := by
    have hgain := (hn 0).2.2
    rw [hentry] at hgain
    simpa [ofInfos, forked] using congrArg (Option.map ModuleEntry.openCount) hgain.symm
  refine ⟨⟨hopen, ?_, by cbv⟩, hclosed, (hkept hclosed).2⟩
  have hways : (n 0 : ℕ∞) = ways forked "top" 0 := (hn 0).1
  rw [← hways, hcount]
  rfl

end RealModeMonitor.ModuleTable
