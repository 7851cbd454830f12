import RealModeMonitor.Vm.Basic

/-!
# The slots

A monitor keeps its sessions in a fixed number of slots. A new session takes the first free slot.
Its id is the slot's number and the slot's generation; removing a session raises the generation,
so ids of the dead reach nobody.

The sixteen interrupt lines of the host can each be routed to a session. Routes to a session end
with it.
-/

namespace RealModeMonitor

structure Slot where
  generation : UInt32 := 0
  vm : Option Vm := none

structure Registry where
  slots : Array Slot
  irqOwners : Vector (Option VmId) 16 := Vector.replicate 16 none

namespace Registry

def ofSize (n : Nat) : Registry := { slots := Array.replicate n {} }

/-! ## Sessions -/

/-- The slot that an id names, if it still has the id's generation. -/
def slot? (r : Registry) (id : VmId) : Option Slot :=
  (r.slots[id.slot.toNat]?).filter fun s => s.generation = id.generation

/-- The live session with this id. -/
def get? (r : Registry) (id : VmId) : Option Vm := (r.slot? id).bind Slot.vm

def isAlive (r : Registry) (id : VmId) : Bool := (r.get? id).isSome

/-- Put back a session that changed. -/
def set (r : Registry) (id : VmId) (vm : Vm) : Registry :=
  match r.get? id with
  | some _ => { r with slots := r.slots.setIfInBounds id.slot.toNat ⟨id.generation, some vm⟩ }
  | none => r

/-- Start a session in the first free slot. -/
def create (r : Registry) (memory : Memory) (ioHandlers : Nat) :
    Except MonitorError (VmId × Registry) :=
  match r.slots.findIdx? fun s => s.vm.isNone with
  | none => .error (.exhausted .vmSlot)
  | some i =>
    let generation := ((r.slots[i]?).map Slot.generation).getD 0
    let id : VmId := ⟨UInt16.ofNat i, generation⟩
    .ok (id, { r with
      slots := r.slots.setIfInBounds i ⟨generation, some (Vm.new id memory ioHandlers)⟩ })

/-- Remove a session, its routes, and the validity of its id. -/
def remove (r : Registry) (id : VmId) : Registry :=
  match r.get? id with
  | none => r
  | some _ =>
    { slots := r.slots.setIfInBounds id.slot.toNat ⟨id.generation + 1, none⟩
      irqOwners := r.irqOwners.map fun owner => if owner = some id then none else owner }

/-- A live session is where its id says. -/
theorem get?_eq_some_iff {r : Registry} {id : VmId} {vm : Vm} :
    r.get? id = some vm ↔ r.slots[id.slot.toNat]? = some ⟨id.generation, some vm⟩ := by
  unfold get? slot?
  cases h : r.slots[id.slot.toNat]? with
  | none => simp
  | some s =>
    obtain ⟨generation, held⟩ := s
    by_cases hg : generation = id.generation <;> simp [Option.filter, hg]

/-- Putting a live session back changes what its id reaches, and no other id. -/
theorem get?_set {r : Registry} {id : VmId} {old : Vm} (h : r.get? id = some old) (vm : Vm)
    (other : VmId) : (r.set id vm).get? other = if other = id then some vm else r.get? other := by
  have hs := get?_eq_some_iff.1 h
  have hlt : id.slot.toNat < r.slots.size := (Array.getElem?_eq_some_iff.1 hs).1
  simp only [set, h]
  by_cases he : other = id
  · subst he
    rw [if_pos rfl, get?_eq_some_iff]
    simp [hlt]
  · rw [if_neg he]
    unfold get? slot?
    rw [Array.getElem?_setIfInBounds]
    split
    · next hslot =>
      have hg : id.generation ≠ other.generation := fun hg =>
        he (VmId.ext (UInt16.toNat_inj.1 hslot.symm) hg.symm)
      rw [← hslot, hs]
      simp [Option.filter, hg]
    · rfl

/-- Removing a live session leaves its id reaching nobody, and changes no other id. -/
theorem get?_remove {r : Registry} {id : VmId} {old : Vm} (h : r.get? id = some old)
    (other : VmId) : (r.remove id).get? other = if other = id then none else r.get? other := by
  have hs := get?_eq_some_iff.1 h
  have hlt : id.slot.toNat < r.slots.size := (Array.getElem?_eq_some_iff.1 hs).1
  simp only [remove, h]
  unfold get? slot?
  rw [Array.getElem?_setIfInBounds]
  by_cases hslot : id.slot.toNat = other.slot.toNat
  · rw [if_pos hslot, if_pos hlt, ← hslot, hs]
    by_cases he : other = id
    · rw [if_pos he]
      simp [Option.filter]
    · have hg : id.generation ≠ other.generation := fun hg =>
        he (VmId.ext (UInt16.toNat_inj.1 hslot.symm) hg.symm)
      rw [if_neg he]
      simp [Option.filter, hg]
  · have he : other ≠ id := fun he => hslot (he ▸ rfl)
    rw [if_neg hslot, if_neg he]

/-- Live sessions in the order of their slots. -/
def vms (r : Registry) : List Vm := r.slots.toList.filterMap Slot.vm

def ids (r : Registry) : List VmId := r.vms.map Vm.id

/-- The session that a host task runs: the first one bound to it. -/
def forTask? (r : Registry) (task : UInt32) : Option VmId :=
  (r.vms.find? fun vm => vm.task = some task).map Vm.id

/-! ## Host interrupt lines -/

def irqOwner? (r : Registry) (irq : UInt8) : Option VmId := (r.irqOwners[irq.toNat]?).join

/-- Route a host line to a session, or to nobody. Says whether there is such a line. -/
def route (r : Registry) (irq : UInt8) (owner : Option VmId) : Bool × Registry :=
  if h : irq.toNat < 16 then (true, { r with irqOwners := r.irqOwners.set irq.toNat owner h })
  else (false, r)

end Registry
end RealModeMonitor
