import RealModeMonitor.Proofs.Registry.Slots

/-!
# Sessions that go

Most of what happens to a registry is that sessions change, and that some of them go. Then `Thins`
holds: a slot keeps its session and its generation, or loses the session and moves on to the next
generation, and a host line loses its owner exactly if the owner went. Putting a session back thins
out a registry (`thins_set`), removing one does (`thins_remove`), and so does one after the other
(`Thins.trans`).

What is left then is known from the sessions alone (`Thins.unique`): two registries that came of one
and hold the same sessions are equal.
-/

namespace RealModeMonitor

/-- What may become of a slot when no session starts. -/
inductive Slot.Thins (s : Slot) : Slot → Prop where
  | stays {s' : Slot} (generation : s'.generation = s.generation)
      (held : s'.vm.isSome = s.vm.isSome) : Thins s s'
  | goes (held : s.vm.isSome = true) : Thins s ⟨s.generation + 1, none⟩

theorem Slot.Thins.trans {s s' s'' : Slot} (h : s.Thins s') (h' : s'.Thins s'') : s.Thins s'' := by
  cases h with
  | stays hgeneration hheld =>
    cases h' with
    | stays hgeneration' hheld' =>
      exact .stays (hgeneration'.trans hgeneration) (hheld'.trans hheld)
    | goes hheld' =>
      rw [hgeneration]
      exact .goes (hheld ▸ hheld')
  | goes hheld =>
    cases h' with
    | @stays s'' hgeneration' hheld' =>
      obtain ⟨generation, vm⟩ := s''
      obtain rfl : generation = s.generation + 1 := hgeneration'
      obtain rfl : vm = none := by simpa using hheld'
      exact .goes hheld
    | goes hheld' => cases hheld'

namespace Registry

variable {r r' r'' : Registry} {id other : VmId} {v v' : Vm}

/-- Whether a session did not go between two moments. -/
def stays (r r' : Registry) (id : VmId) : Bool := !r.isAlive id || r'.isAlive id

/-- Sessions changed and some went. -/
structure Thins (r r' : Registry) : Prop where
  size : r'.slots.size = r.slots.size
  slots : ∀ (i : Nat) (s s' : Slot),
    r.slots[i]? = some s → r'.slots[i]? = some s' → s.Thins s'
  owners : r'.irqOwners = r.irqOwners.map fun owner => owner.filter (r.stays r')

theorem Thins.exists_slot (h : r.Thins r') {i : Nat} {s' : Slot} (hs' : r'.slots[i]? = some s') :
    ∃ s, r.slots[i]? = some s ∧ s.Thins s' := by
  have hlt : i < r.slots.size := h.size ▸ (Array.getElem?_eq_some_iff.1 hs').1
  exact ⟨_, Array.getElem?_eq_getElem hlt, h.slots i _ _ (Array.getElem?_eq_getElem hlt) hs'⟩

theorem isAlive_iff : r.isAlive id = true ↔
    ∃ s, r.slots[id.slot.toNat]? = some s ∧ s.generation = id.generation ∧ s.vm.isSome = true := by
  rw [isAlive, Option.isSome_iff_exists]
  simp only [get?_eq_some_iff]
  constructor
  · rintro ⟨v, hv⟩
    exact ⟨_, hv, rfl, rfl⟩
  · rintro ⟨⟨generation, vm⟩, hs, rfl, hvm⟩
    obtain ⟨v, rfl⟩ := Option.isSome_iff_exists.1 hvm
    exact ⟨v, hs⟩

/-- Nobody comes. -/
theorem Thins.isAlive (h : r.Thins r') (halive : r'.isAlive id = true) : r.isAlive id = true := by
  obtain ⟨s', hs', hgeneration, hheld⟩ := isAlive_iff.1 halive
  obtain ⟨s, hs, hthins⟩ := h.exists_slot hs'
  cases hthins with
  | stays hgeneration' hheld' =>
    exact isAlive_iff.2 ⟨s, hs, hgeneration'.symm.trans hgeneration, hheld' ▸ hheld⟩
  | goes _ => cases hheld

theorem Thins.irqOwner? (h : r.Thins r') (irq : UInt8) :
    r'.irqOwner? irq = (r.irqOwner? irq).filter (r.stays r') := by
  simp only [Registry.irqOwner?, h.owners, Vector.getElem?_map]
  rcases r.irqOwners[irq.toNat]? with _ | _ | owner <;> rfl

/-- Nothing but the states of sessions changed. -/
theorem thins_of_alive (hsize : r'.slots.size = r.slots.size)
    (hslots : ∀ (i : Nat) (s s' : Slot),
      r.slots[i]? = some s → r'.slots[i]? = some s' → s.Thins s')
    (halive : ∀ id, r'.isAlive id = r.isAlive id) (howners : r'.irqOwners = r.irqOwners) :
    r.Thins r' := by
  refine ⟨hsize, hslots, ?_⟩
  have hstays : r.stays r' = fun _ => true := by
    funext id
    rw [stays, halive]
    exact Bool.not_or_self _
  have hfilter : (fun owner : Option VmId => owner.filter fun _ => true) = id := by
    funext owner
    cases owner <;> rfl
  rw [howners, hstays, hfilter, Vector.map_id]

theorem Thins.refl (r : Registry) : r.Thins r := by
  refine thins_of_alive rfl (fun i s s' hs hs' => ?_) (fun _ => rfl) rfl
  obtain rfl := Option.some.inj (hs.symm.trans hs')
  exact .stays rfl rfl

theorem Thins.trans (h : r.Thins r') (h' : r'.Thins r'') : r.Thins r'' where
  size := h'.size.trans h.size
  slots i s s'' hs hs'' := by
    obtain ⟨s', hs', hthins'⟩ := h'.exists_slot hs''
    exact (h.slots i s s' hs hs').trans hthins'
  owners := by
    rw [h'.owners, h.owners, Vector.map_map]
    refine congrArg (fun f => r.irqOwners.map f) (funext fun owner => ?_)
    rw [Function.comp_apply, Option.filter_filter]
    refine congrArg (fun p => owner.filter p) (funext fun id => ?_)
    have hback : r'.isAlive id = true → r.isAlive id = true := h.isAlive
    have hback' : r''.isAlive id = true → r'.isAlive id = true := h'.isAlive
    simp only [stays]
    cases hr : r.isAlive id <;> cases hr' : r'.isAlive id <;> cases hr'' : r''.isAlive id <;>
      simp_all

theorem thins_set (h : r.get? id = some v) (v' : Vm) : r.Thins (r.set id v') := by
  refine thins_of_alive (size_set r id v') (fun i s s' hs hs' => ?_) (isAlive_set h v') ?_
  · rw [set_eq h, getElem?_put, hs, Option.map_some] at hs'
    split at hs'
    next hi =>
      obtain rfl := Option.some.inj hs'
      rw [← hi, get?_eq_some_iff.1 h] at hs
      obtain rfl := Option.some.inj hs
      exact .stays rfl rfl
    next =>
      obtain rfl := Option.some.inj hs'
      exact .stays rfl rfl
  · rw [set_eq h]
    rfl

theorem thins_remove (h : r.get? id = some v) : r.Thins (r.remove id) where
  size := by
    rw [slots_remove h]
    simp [put]
  slots i s s' hs hs' := by
    rw [slots_remove h, getElem?_put, hs, Option.map_some] at hs'
    split at hs'
    next hi =>
      obtain rfl := Option.some.inj hs'
      rw [← hi, get?_eq_some_iff.1 h] at hs
      obtain rfl := Option.some.inj hs
      exact .goes rfl
    next =>
      obtain rfl := Option.some.inj hs'
      exact .stays rfl rfl
  owners := by
    have halive : r.isAlive id = true := by rw [Registry.isAlive, h]; rfl
    have howners : (r.remove id).irqOwners =
        r.irqOwners.map fun owner => if owner = some id then none else owner := by rw [remove, h]
    rw [howners]
    refine congrArg (fun f => r.irqOwners.map f) (funext fun owner => ?_)
    cases owner with
    | none => rfl
    | some other =>
      by_cases hid : other = id
      · subst hid
        simp [stays, isAlive_remove h, halive, Option.filter]
      · simp [stays, isAlive_remove h, hid, Option.filter]

/-- A slot with a session in it is known from the session. -/
theorem getElem?_of_held {i : Nat} {s : Slot} (hsize : r.slots.size ≤ mostSlots)
    (hget : ∀ id, r.get? id = r'.get? id) (hs : r.slots[i]? = some s)
    (hheld : s.vm.isSome = true) : r'.slots[i]? = some s := by
  obtain ⟨generation, vm⟩ := s
  obtain ⟨v, rfl⟩ := Option.isSome_iff_exists.1 hheld
  have hlt : i < r.slots.size := (Array.getElem?_eq_some_iff.1 hs).1
  have hi : (UInt16.ofNat i).toNat = i := by
    rw [UInt16.toNat_ofNat']
    exact Nat.mod_eq_of_lt (by unfold mostSlots at hsize; omega)
  have hv : r.get? ⟨UInt16.ofNat i, generation⟩ = some v := by
    rw [get?_eq_some_iff, hi]
    exact hs
  rw [hget, get?_eq_some_iff, hi] at hv
  exact hv

/-- What is left is known from the sessions. -/
theorem Thins.unique (hr : r.slots.size ≤ mostSlots) (h : r.Thins r') (h' : r.Thins r'')
    (hget : ∀ id, r'.get? id = r''.get? id) : r' = r'' := by
  have howners : r'.irqOwners = r''.irqOwners := by
    have hstays : r.stays r' = r.stays r'' := by
      funext id
      rw [stays, stays, Registry.isAlive, Registry.isAlive, hget, Registry.isAlive]
    rw [h.owners, h'.owners, hstays]
  have hslots : r'.slots = r''.slots := by
    refine Array.ext (h.size.trans h'.size.symm) fun i hi hi' => ?_
    have hs' := Array.getElem?_eq_getElem hi
    have hs'' := Array.getElem?_eq_getElem hi'
    generalize r'.slots[i] = s' at hs' ⊢
    generalize r''.slots[i] = s'' at hs'' ⊢
    by_cases hheld' : s'.vm.isSome = true
    · have := getElem?_of_held (h.size ▸ hr) hget hs' hheld'
      exact Option.some.inj (this.symm.trans hs'')
    by_cases hheld'' : s''.vm.isSome = true
    · have := getElem?_of_held (h'.size ▸ hr) (fun id => (hget id).symm) hs'' hheld''
      exact Option.some.inj (hs'.symm.trans this)
    -- both are empty: then both stayed, or both lost the session
    obtain ⟨s, hs, hthins⟩ := h.exists_slot hs'
    have hthins' := h'.slots i s s'' hs hs''
    cases hthins with
    | stays hgeneration hheld =>
      cases hthins' with
      | stays hgeneration' hheld =>
        obtain ⟨generation, vm⟩ := s'
        obtain ⟨generation', vm'⟩ := s''
        simp_all
      | goes hgone => simp_all
    | goes hgone =>
      cases hthins' with
      | stays hgeneration hheld => simp_all
      | goes => rfl
  obtain ⟨slots, irqOwners⟩ := r'
  obtain ⟨slots', irqOwners'⟩ := r''
  cases hslots
  cases howners
  rfl

end Registry
end RealModeMonitor
