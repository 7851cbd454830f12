import Mathlib
import RealModeMonitor.Registry

/-!
# Sessions and their slots

A session bears the name of the slot it is in, with the slot's generation (`WellNamed`). All that
happens to slots are three changes of one slot: a session is put back changed, a session starts in a
free slot, a session is removed and the slot's generation grows. Each of them keeps the names right.

**Names.** In a well-named registry a session is found under its own name and under no other
(`get?_eq_some_iff_mem`), and the names of the live sessions stand in the order of the slots
(`pairwise_ids`), so that each comes once.

**Free slots.** A session starts in a free slot under a name that reaches nobody (`create_eq_ok`),
and there is none exactly if as many sessions live as there are slots (`create_eq_error_iff`).
-/

namespace RealModeMonitor.Registry

variable {r r' : Registry} {id other : VmId} {v v' : Vm} {i : Nat} {s : Slot}

/-! ## Slots -/

/-- Sessions bear the names of their slots, and there are few enough slots to name them all. -/
structure WellNamed (r : Registry) : Prop where
  size : r.slots.size ≤ mostSlots
  named : ∀ (i : Nat) (s : Slot) (v : Vm), r.slots[i]? = some s → s.vm = some v →
    v.id.slot.toNat = i ∧ v.id.generation = s.generation

/-- The generation of the slot with this number. -/
def generation? (r : Registry) (i : Nat) : Option UInt32 := (r.slots[i]?).map Slot.generation

/-- A registry with one slot changed. -/
def put (r : Registry) (i : Nat) (s : Slot) : Registry :=
  { r with slots := r.slots.setIfInBounds i s }

theorem getElem?_put (r : Registry) (i j : Nat) (s : Slot) :
    (r.put i s).slots[j]? = if i = j then (r.slots[j]?).map fun _ => s else r.slots[j]? := by
  simp only [put, Array.getElem?_setIfInBounds]
  split
  next h =>
    subst h
    split
    next hlt => simp [hlt]
    next hge => simp [hge]
  next => rfl

theorem WellNamed.put (h : r.WellNamed)
    (hs : ∀ v, s.vm = some v → v.id.slot.toNat = i ∧ v.id.generation = s.generation) :
    (r.put i s).WellNamed := by
  refine ⟨by simpa [Registry.put] using h.size, fun j s' v hj hv => ?_⟩
  rw [getElem?_put] at hj
  split at hj
  next hij =>
    obtain ⟨_, _, rfl⟩ := Option.map_eq_some_iff.1 hj
    exact hij ▸ hs v hv
  next => exact h.named j s' v hj hv

theorem WellNamed.id_of_get? (h : r.WellNamed) (hget : r.get? id = some v) : v.id = id := by
  obtain ⟨hslot, hgeneration⟩ := h.named _ _ _ (get?_eq_some_iff.1 hget) rfl
  exact VmId.ext (UInt16.toNat_inj.1 hslot) hgeneration

theorem WellNamed.get?_eq_some_iff_mem (h : r.WellNamed) :
    r.get? id = some v ↔ v ∈ r.vms ∧ v.id = id := by
  constructor
  · intro hget
    have hmem := Array.mem_toList_iff.2 (Array.mem_of_getElem? (get?_eq_some_iff.1 hget))
    exact ⟨List.mem_filterMap.2 ⟨_, hmem, rfl⟩, h.id_of_get? hget⟩
  · rintro ⟨hmem, rfl⟩
    obtain ⟨s, hs, hv⟩ := List.mem_filterMap.1 hmem
    obtain ⟨i, hi⟩ := Array.mem_iff_getElem?.1 (Array.mem_toList_iff.1 hs)
    obtain ⟨hslot, hgeneration⟩ := h.named i s v hi hv
    rw [get?_eq_some_iff, hslot, hi, ← hv, hgeneration]

theorem WellNamed.mem_ids_iff (h : r.WellNamed) : id ∈ r.ids ↔ r.isAlive id = true := by
  simp only [ids, List.mem_map, isAlive, Option.isSome_iff_exists, h.get?_eq_some_iff_mem]

/-- The names of live sessions stand in the order of the slots. -/
theorem WellNamed.pairwise_ids (h : r.WellNamed) : r.ids.Pairwise fun a b => a.slot < b.slot := by
  rw [ids, List.pairwise_map, vms, List.pairwise_filterMap, List.pairwise_iff_getElem]
  intro i j hi hj hij v hv v' hv'
  have hslot := (h.named i _ v (by simp) hv).1
  have hslot' := (h.named j _ v' (by simp) hv').1
  rw [UInt16.lt_iff_toNat_lt, hslot, hslot']
  exact hij

theorem WellNamed.nodup_ids (h : r.WellNamed) : r.ids.Nodup :=
  h.pairwise_ids.imp fun hlt heq => by simp [heq] at hlt

/-! ## Putting back -/

theorem set_eq (h : r.get? id = some v) (v' : Vm) :
    r.set id v' = r.put id.slot.toNat ⟨id.generation, some v'⟩ := by
  rw [set, h]
  rfl

theorem WellNamed.set (hr : r.WellNamed) (h : r.get? id = some v) (hid : v'.id = v.id) :
    (r.set id v').WellNamed := by
  rw [set_eq h]
  refine hr.put fun w hw => ?_
  obtain rfl := Option.some.inj hw
  rw [hid, hr.id_of_get? h]
  exact ⟨rfl, rfl⟩

theorem generation?_set (h : r.get? id = some v) (v' : Vm) (i : Nat) :
    (r.set id v').generation? i = r.generation? i := by
  have hslot := get?_eq_some_iff.1 h
  rw [set_eq h, generation?, getElem?_put, generation?]
  split
  next hi => rw [← hi, hslot]; rfl
  next => rfl

theorem isAlive_set (h : r.get? id = some v) (v' : Vm) (other : VmId) :
    (r.set id v').isAlive other = r.isAlive other := by
  rw [isAlive, get?_set h]
  split
  next hid => rw [hid, isAlive, h]; rfl
  next => rfl

theorem size_set (r : Registry) (id : VmId) (v : Vm) : (r.set id v).slots.size = r.slots.size := by
  rw [set]
  split
  · simp
  · rfl

/-! ## Removing -/

theorem slots_remove (h : r.get? id = some v) :
    (r.remove id).slots = (r.put id.slot.toNat ⟨id.generation + 1, none⟩).slots := by
  rw [remove, h]
  rfl

theorem WellNamed.remove (hr : r.WellNamed) (id : VmId) : (r.remove id).WellNamed := by
  cases h : r.get? id with
  | none => rwa [Registry.remove, h]
  | some v =>
    have hput := hr.put (i := id.slot.toNat) (s := ⟨id.generation + 1, none⟩)
      (fun w hw => by cases hw)
    refine ⟨?_, ?_⟩
    · rw [slots_remove h]; exact hput.size
    · rw [slots_remove h]; exact hput.named

theorem isAlive_remove (h : r.get? id = some v) (other : VmId) :
    (r.remove id).isAlive other = (r.isAlive other && other ≠ id) := by
  rw [isAlive, get?_remove h, isAlive]
  by_cases hid : other = id <;> simp [hid]

theorem generation?_remove (h : r.get? id = some v) (i : Nat) :
    (r.remove id).generation? i =
      if id.slot.toNat = i then some (id.generation + 1) else r.generation? i := by
  have hslot := get?_eq_some_iff.1 h
  rw [generation?, slots_remove h, getElem?_put, generation?]
  split
  next hi => rw [← hi, hslot]; rfl
  next => rfl

/-! ## Starting -/

variable {memory : Memory} {ioHandlers : Nat}

/-- A session starts in a free slot, under the slot's name and generation. -/
theorem create_eq_ok (hr : r.slots.size ≤ mostSlots)
    (h : r.create memory ioHandlers = .ok (id, r')) :
    r.slots[id.slot.toNat]? = some ⟨id.generation, none⟩ ∧
      r' = r.put id.slot.toNat ⟨id.generation, some (Vm.new id memory ioHandlers)⟩ := by
  unfold create at h
  split at h
  · cases h
  · next i hi =>
    obtain ⟨hlt, hfree, -⟩ := Array.findIdx?_eq_some_iff_getElem.1 hi
    have hget : r.slots[i]? = some r.slots[i] := Array.getElem?_eq_getElem hlt
    have hnat : (UInt16.ofNat i).toNat = i := by
      rw [UInt16.toNat_ofNat']
      exact Nat.mod_eq_of_lt (by unfold mostSlots at hr; omega)
    obtain ⟨rfl, rfl⟩ := Prod.mk.inj (Except.ok.inj h)
    rw [Option.isNone_iff_eq_none] at hfree
    simp only [hnat, hget, Option.map_some, Option.getD_some]
    refine ⟨?_, rfl⟩
    rw [← hfree]

theorem WellNamed.create (hr : r.WellNamed) (h : r.create memory ioHandlers = .ok (id, r')) :
    r'.WellNamed := by
  obtain ⟨-, rfl⟩ := create_eq_ok hr.size h
  refine hr.put fun w hw => ?_
  obtain rfl := Option.some.inj hw
  exact ⟨rfl, rfl⟩

theorem generation?_create (hr : r.WellNamed) (h : r.create memory ioHandlers = .ok (id, r'))
    (i : Nat) : r'.generation? i = r.generation? i := by
  obtain ⟨hfree, rfl⟩ := create_eq_ok hr.size h
  rw [generation?, getElem?_put, generation?]
  split
  next hi => rw [← hi, hfree]; rfl
  next => rfl

/-- The slot that a session starts in holds nobody before, under no generation. -/
theorem get?_of_create (hr : r.WellNamed) (h : r.create memory ioHandlers = .ok (id, r'))
    (hslot : other.slot = id.slot) : r.get? other = none := by
  obtain ⟨hfree, -⟩ := create_eq_ok hr.size h
  cases hget : r.get? other with
  | none => rfl
  | some v =>
    have := get?_eq_some_iff.1 hget
    rw [hslot, hfree] at this
    simp at this

theorem get?_create (hr : r.WellNamed) (h : r.create memory ioHandlers = .ok (id, r'))
    (other : VmId) :
    r'.get? other = if other = id then some (Vm.new id memory ioHandlers) else r.get? other := by
  obtain ⟨hfree, rfl⟩ := create_eq_ok hr.size h
  unfold get? slot?
  rw [getElem?_put]
  by_cases hslot : id.slot.toNat = other.slot.toNat
  · rw [if_pos hslot, ← hslot, hfree]
    by_cases hid : other = id
    · subst hid
      simp [Option.filter]
    · have hg : id.generation ≠ other.generation := fun hg =>
        hid (VmId.ext (UInt16.toNat_inj.1 hslot.symm) hg.symm)
      simp [hid, hg, Option.filter]
  · have hid : other ≠ id := fun hid => hslot (by rw [hid])
    rw [if_neg hslot, if_neg hid]

theorem length_ids_eq_iff (r : Registry) :
    r.ids.length = r.slots.size ↔ ∀ s ∈ r.slots, s.vm.isSome = true := by
  rw [ids, List.length_map, vms, ← Array.length_toList, List.filterMap_length_eq_length]
  simp

/-- There is no free slot exactly if as many sessions live as there are slots. -/
theorem create_eq_error_iff (r : Registry) (memory : Memory) (ioHandlers : Nat) :
    r.create memory ioHandlers = .error (.exhausted .vmSlot) ↔ r.ids.length = r.slots.size := by
  rw [length_ids_eq_iff]
  unfold create
  cases h : r.slots.findIdx? fun s => s.vm.isNone with
  | none =>
    rw [Array.findIdx?_eq_none_iff] at h
    simp only [true_iff]
    intro s hs
    have := h s hs
    cases hvm : s.vm <;> simp_all
  | some i =>
    obtain ⟨hlt, hfree, -⟩ := Array.findIdx?_eq_some_iff_getElem.1 h
    simp only [reduceCtorEq, false_iff]
    intro hall
    have := hall _ (Array.getElem_mem hlt)
    simp_all

theorem eq_exhausted_of_create {e : MonitorError} (h : r.create memory ioHandlers = .error e) :
    e = .exhausted .vmSlot := by
  unfold create at h
  split at h
  · exact (Except.error.inj h).symm
  · cases h

/-! ## Sums over the live sessions -/

/-- What the session in a slot counts for. -/
def weight (f : Vm → Nat) (s : Slot) : Nat := (s.vm.map f).getD 0

/-- A sum over all live sessions. -/
def total (r : Registry) (f : Vm → Nat) : Nat := (r.vms.map f).sum

theorem sum_filterMap_set (f : Vm → Nat) (slots : List Slot) (i : Nat) {old : Slot}
    (h : slots[i]? = some old) :
    (((slots.set i s).filterMap Slot.vm).map f).sum + weight f old =
      ((slots.filterMap Slot.vm).map f).sum + weight f s := by
  have hcons : ∀ (s : Slot) (rest : List Slot),
      (((s :: rest).filterMap Slot.vm).map f).sum =
        weight f s + ((rest.filterMap Slot.vm).map f).sum := by
    intro s rest
    rcases hvm : s.vm with _ | v <;> simp [weight, hvm]
  induction slots generalizing i with
  | nil => simp at h
  | cons first rest ih =>
    cases i with
    | zero =>
      obtain rfl : first = old := by simpa using h
      rw [List.set_cons_zero, hcons, hcons]
      omega
    | succ i =>
      have := ih i (by simpa using h)
      rw [List.set_cons_succ, hcons, hcons]
      omega

/-- Changing a slot trades what its session counted for. -/
theorem total_put (f : Vm → Nat) {old : Slot} (h : r.slots[i]? = some old) :
    (r.put i s).total f + weight f old = r.total f + weight f s := by
  rw [total, vms, put, Array.toList_setIfInBounds]
  exact sum_filterMap_set f r.slots.toList i (by simpa using h)

theorem total_set (f : Vm → Nat) (h : r.get? id = some v) (v' : Vm) :
    (r.set id v').total f + f v = r.total f + f v' := by
  rw [set_eq h]
  exact total_put f (get?_eq_some_iff.1 h)

theorem total_remove (f : Vm → Nat) (h : r.get? id = some v) :
    (r.remove id).total f + f v = r.total f := by
  have := total_put (s := ⟨id.generation + 1, none⟩) f (get?_eq_some_iff.1 h)
  rw [total, vms, slots_remove h]
  exact this

theorem total_create (f : Vm → Nat) (hr : r.WellNamed)
    (h : r.create memory ioHandlers = .ok (id, r')) :
    r'.total f = r.total f + f (Vm.new id memory ioHandlers) := by
  obtain ⟨hfree, rfl⟩ := create_eq_ok hr.size h
  exact total_put f hfree

end RealModeMonitor.Registry
