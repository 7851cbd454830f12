import Mathlib.Data.Set.Card
import RealModeMonitor.Proofs.ModuleTable.References

/-!
# Routes over the dependencies

A table of modules may be anything: names may stand there twice, dependencies may be missing, and
they may lead in a circle. A **route** from a module (`follow?`) says at each step which of the
dependencies it takes, by its number in the list; so a dependency that is listed twice makes two
routes. `ways` is the number of routes from a name to a place, and it is infinite if a circle lies
on the way.

**Ways.** A route is empty or takes one of the dependencies first (`ways_eq`). There is one exactly
where the dependencies lead (`ways_pos_iff`).
-/

namespace RealModeMonitor.ModuleTable

variable {infos : List ModuleInfo} {name other : String} {info : ModuleInfo} {i : Nat}

/-! ## Reaching -/

/-- The module called `b` is listed by the module called `a`. -/
def DependsOn (infos : List ModuleInfo) (a b : String) : Prop := b ∈ dependencies infos a

/-- The dependencies lead from `a` to `b`, in any number of steps. -/
abbrev Reaches (infos : List ModuleInfo) : String → String → Prop :=
  Relation.ReflTransGen (DependsOn infos)

/-- The dependencies lead from `a` to `b`, in one step or more. -/
abbrev Below (infos : List ModuleInfo) : String → String → Prop :=
  Relation.TransGen (DependsOn infos)

/-- A place has one name. -/
theorem name_of_lookup? {info' : ModuleInfo} (h : lookup? infos name = some (info, i))
    (h' : lookup? infos other = some (info', i)) : name = other := by
  obtain ⟨hget, rfl⟩ := lookup?_eq_some h
  obtain ⟨hget', rfl⟩ := lookup?_eq_some h'
  rw [Option.some.inj (hget.symm.trans hget')]

/-! ## Routes -/

/-- The place that a route comes to. -/
def follow? (infos : List ModuleInfo) : String → List Nat → Option Nat
  | name, [] => (lookup? infos name).map Prod.snd
  | name, k :: route => (dependencies infos name)[k]?.bind fun d => follow? infos d route

/-- The routes from the module called `name` to the module at place `i`. -/
def routes (infos : List ModuleInfo) (name : String) (i : Nat) : Set (List Nat) :=
  {route | follow? infos name route = some i}

/-- How many routes there are. -/
noncomputable def ways (infos : List ModuleInfo) (name : String) (i : Nat) : ℕ∞ :=
  (routes infos name i).encard

/-- The routes that start with one of the names, with its number in the list. -/
def branches (infos : List ModuleInfo) (names : List String) (i : Nat) : Set (Nat × List Nat) :=
  {branch | ∃ d, names[branch.1]? = some d ∧ branch.2 ∈ routes infos d i}

theorem branches_nil (infos : List ModuleInfo) (i : Nat) : branches infos [] i = ∅ := by
  ext ⟨k, route⟩
  simp [branches]

theorem branches_cons (infos : List ModuleInfo) (d : String) (names : List String) (i : Nat) :
    branches infos (d :: names) i =
      Prod.mk 0 '' routes infos d i ∪ Prod.map Nat.succ id '' branches infos names i := by
  ext ⟨k, route⟩
  cases k with
  | zero => simp [branches]
  | succ k => simp [branches]

theorem encard_branches (infos : List ModuleInfo) (names : List String) (i : Nat) :
    (branches infos names i).encard = (names.map fun d => ways infos d i).sum := by
  induction names with
  | nil => simp [branches_nil]
  | cons d names ih =>
    have hdisjoint : Disjoint (Prod.mk 0 '' routes infos d i)
        (Prod.map Nat.succ id '' branches infos names i) := by
      refine Set.disjoint_left.2 ?_
      rintro - ⟨route, -, rfl⟩ ⟨⟨k, route'⟩, -, hk⟩
      exact Nat.succ_ne_zero k (Prod.mk.inj hk).1
    have hsucc : Function.Injective (Prod.map Nat.succ (id : List Nat → List Nat)) :=
      Nat.succ_injective.prodMap Function.injective_id
    rw [branches_cons, Set.encard_union_eq hdisjoint, (Prod.mk_right_injective 0).encard_image,
      hsucc.encard_image, ih, List.map_cons, List.sum_cons]
    rfl

theorem routes_eq (infos : List ModuleInfo) (name : String) (i : Nat) :
    routes infos name i = {route | route = [] ∧ (lookup? infos name).map Prod.snd = some i} ∪
      (fun branch => branch.1 :: branch.2) '' branches infos (dependencies infos name) i := by
  ext route
  cases route with
  | nil => simp [routes, follow?]
  | cons k route => simp [routes, branches, follow?, Option.bind_eq_some_iff]

/-- A route is empty or takes one of the dependencies first. -/
theorem ways_eq (infos : List ModuleInfo) (name : String) (i : Nat) :
    ways infos name i = (if (lookup? infos name).map Prod.snd = some i then 1 else 0) +
      ((dependencies infos name).map fun d => ways infos d i).sum := by
  have hdisjoint : Disjoint
      {route : List Nat | route = [] ∧ (lookup? infos name).map Prod.snd = some i}
      ((fun branch => branch.1 :: branch.2) '' branches infos (dependencies infos name) i) := by
    refine Set.disjoint_left.2 ?_
    rintro - ⟨rfl, -⟩ ⟨branch, -, hbranch⟩
    cases hbranch
  have hcons : Function.Injective fun branch : Nat × List Nat => branch.1 :: branch.2 :=
    fun _ _ h => Prod.ext (List.cons.inj h).1 (List.cons.inj h).2
  rw [ways, routes_eq, Set.encard_union_eq hdisjoint, hcons.encard_image, encard_branches]
  congr 1
  split
  next h => simp [h]
  next h => simp [h]

/-- The module that a name stands for is reached by the empty route. -/
theorem one_le_ways (h : lookup? infos name = some (info, i)) : 1 ≤ ways infos name i := by
  rw [ways_eq, h]
  simp

/-- There is a route exactly where the dependencies lead. -/
theorem ways_pos_iff :
    0 < ways infos name i ↔
      ∃ b, Reaches infos name b ∧ (lookup? infos b).map Prod.snd = some i := by
  rw [ways, Set.encard_pos]
  constructor
  · rintro ⟨route, hroute⟩
    induction route generalizing name with
    | nil => exact ⟨name, .refl, hroute⟩
    | cons k route ih =>
      obtain ⟨d, hd, hroute⟩ := Option.bind_eq_some_iff.1 hroute
      obtain ⟨b, hreach, hb⟩ := ih hroute
      exact ⟨b, hreach.head (List.mem_of_getElem? hd), hb⟩
  · rintro ⟨b, hreach, hb⟩
    induction hreach using Relation.ReflTransGen.head_induction_on with
    | refl => exact ⟨[], hb⟩
    | head hstep _ ih =>
      obtain ⟨route, hroute⟩ := ih
      obtain ⟨k, hk⟩ := List.mem_iff_getElem?.1 hstep
      exact ⟨k :: route, Option.bind_eq_some_iff.2 ⟨_, hk, hroute⟩⟩

end RealModeMonitor.ModuleTable
