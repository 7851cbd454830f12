import RealModeMonitor.Vm.Basic

/-!
# What a session's work leaves alone

A device is the same device however its state changes: `Device.blank` forgets the state. The
**arena** of a session says which device stands at which place, and its **teardowns** are the
devices that its kill handlers tear down.

`Vm.Keeps v v'` says that both sessions have the same name, arena and teardowns. Whatever a device
does when it is called, the session keeps them (`keeps_call`): the device comes back to its place,
and the controller that it may have reached through the bus stays where it was.

A session is **swept** if its teardowns are the devices that it has. A new session is, and
attaching a device or taking it out at once leaves it so.
-/

namespace RealModeMonitor

/-! ## Devices without their state -/

namespace Device

/-- The device as it was made, but for what a CMOS memory says of the guest's. -/
def blank : Device → Device
  | pic _ => pic .initial
  | pit _ => pit .initial
  | dma _ => dma .initial
  | cmos _ => cmos (.initial 0)
  | external d => external { d with history := [] }

variable {d d' : Device}

theorem kind_blank (d : Device) : d.blank.kind = d.kind := by cases d <;> rfl

theorem blank_access (d : ExternalDevice) (a : Access) (b : Bus) :
    (external (d.access a b).val.2.1).blank = (external d).blank := by
  rfl

theorem blank_read (port : UInt16) (d : Device) (b : Bus) :
    (d.read port b).val.2.1.blank = d.blank := by
  cases d with
  | external d => exact blank_access d (.read port) b
  | pic | pit | dma | cmos => rfl

theorem blank_write (port : UInt16) (value : UInt8) (d : Device) (b : Bus) :
    (d.write port value b).val.2.1.blank = d.blank := by
  cases d with
  | external d => exact blank_access d (.write port value) b
  | dma d =>
    simp only [write]
    split <;> rfl
  | pic | pit | cmos => rfl

theorem blank_tick (d : Device) (b : Bus) : (d.tick b).val.2.1.blank = d.blank := by
  cases d with
  | external d => exact blank_access d (.tick b.clock.now) b
  | pic | pit | dma | cmos => rfl

end Device

/-- The device that a step of a teardown is for. -/
def KillHandler.device? : KillHandler → Option DeviceId
  | device id => some id
  | callback _ => none

namespace Vm

variable {α : Type} {v v' v'' : Vm} {id : DeviceId} {d d' : Device}

/-- The places with the devices that stand there. -/
def arena (v : Vm) : List (Option Device) := v.devices.map (Option.map Device.blank)

/-- The devices that are torn down at the session's death, in order. -/
def teardowns (v : Vm) : List DeviceId := v.killHandlers.filterMap KillHandler.device?

structure Keeps (v v' : Vm) : Prop where
  id : v'.id = v.id
  arena : v'.arena = v.arena
  teardowns : v'.teardowns = v.teardowns

theorem Keeps.refl (v : Vm) : v.Keeps v := ⟨rfl, rfl, rfl⟩

theorem Keeps.trans (h : v.Keeps v') (h' : v'.Keeps v'') : v.Keeps v'' :=
  ⟨h'.id.trans h.id, h'.arena.trans h.arena, h'.teardowns.trans h.teardowns⟩

/-- A new state of the guest. -/
theorem keeps_guest (v : Vm) (guest : Guest) : v.Keeps { v with guest } := ⟨rfl, rfl, rfl⟩

/-! ## Places -/

theorem arena_setDevice (v : Vm) (id : DeviceId) (d : Option Device) :
    (v.setDevice id d).arena = v.arena.set id (d.map Device.blank) := by
  simp [arena, setDevice, List.map_set]

theorem getElem?_arena (h : v.device? id = some d) : v.arena[id]? = some (some d.blank) := by
  obtain ⟨o, ho, rfl⟩ : ∃ o, v.devices[id]? = some o ∧ o = some d := by
    simpa [device?, Option.join_eq_some_iff] using h
  simp [arena, ho]

/-- What stands at a place is known but for its state from the arena. -/
theorem device?_of_arena (h : v'.arena = v.arena) {d' : Device} (hd' : v'.device? id = some d') :
    ∃ d, v.device? id = some d ∧ d.blank = d'.blank := by
  have harena := getElem?_arena hd'
  rw [h, arena, List.getElem?_map] at harena
  obtain ⟨o, ho, hblank⟩ := Option.map_eq_some_iff.1 harena
  obtain ⟨d, rfl, hd⟩ := Option.map_eq_some_iff.1 hblank
  exact ⟨d, by rw [device?, ho]; rfl, hd⟩

theorem lt_of_device? (h : v.device? id = some d) : id < v.devices.length := by
  have harena := getElem?_arena h
  rw [arena, List.getElem?_map] at harena
  obtain ⟨o, ho, -⟩ := Option.map_eq_some_iff.1 harena
  exact (List.getElem?_eq_some_iff.1 ho).1

/-- A device that was put to a place that there is, is there. -/
theorem eq_of_device?_setDevice {d' : Device} (h : (v.setDevice id (some d)).device? id = some d') :
    d = d' := by
  rw [device?_setDevice] at h
  split at h
  · exact Option.some.inj h
  next hplace => exact absurd ⟨rfl, lt_of_device? h⟩ hplace

theorem device?_setDevice_self (h : v.device? id = some d) (o : Option Device) :
    (v.setDevice id o).device? id = o := by
  rw [device?_setDevice, if_pos ⟨rfl, lt_of_device? h⟩]

theorem device?_setDevice_other {other : DeviceId} (h : other ≠ id) (o : Option Device) :
    (v.setDevice id o).device? other = v.device? other := by
  rw [device?_setDevice, if_neg fun heq => h heq.1.symm]

/-- What the others see of a session from which a device is lifted out. -/
theorem device?_lift {other : DeviceId} (h : (v.setDevice id none).device? other = some d) :
    other ≠ id ∧ v.device? other = some d := by
  rw [device?_setDevice] at h
  split at h
  · cases h
  next hplace =>
    refine ⟨?_, h⟩
    rintro rfl
    exact hplace ⟨rfl, lt_of_device? h⟩

/-- A device comes back to its place. -/
theorem arena_set_blank (h : v.device? id = some d) (hblank : d'.blank = d.blank) :
    v.arena.set id (some d'.blank) = v.arena := by
  obtain ⟨hlt, hget⟩ := List.getElem?_eq_some_iff.1 (getElem?_arena h)
  rw [hblank, ← hget, List.set_getElem_self]

theorem keeps_setDevice (h : v.device? id = some d) (hblank : d'.blank = d.blank) :
    v.Keeps (v.setDevice id (some d')) :=
  ⟨rfl, by rw [arena_setDevice, Option.map_some, arena_set_blank h hblank], rfl⟩

/-- What is found is there, and nothing before it will do. -/
theorem firstOf?_eq_some {f : Device → Option α} {i id : DeviceId} {devices : List (Option Device)}
    {a : α} (h : firstOf? f i devices = some (id, a)) :
    ∃ (j : Nat) (d : Device), id = i + j ∧ devices[j]? = some (some d) ∧ f d = some a ∧
      ∀ k < j, ∀ d', devices[k]? = some (some d') → f d' = none := by
  induction devices generalizing i with
  | nil => simp [firstOf?] at h
  | cons first rest ih =>
    unfold firstOf? at h
    cases hfirst : first.bind f with
    | some a' =>
      obtain ⟨d, rfl, hd⟩ := Option.bind_eq_some_iff.1 hfirst
      simp only [hfirst, Option.some.injEq, Prod.mk.injEq] at h
      obtain ⟨rfl, rfl⟩ := h
      exact ⟨0, d, rfl, rfl, hd, fun k hk => absurd hk (Nat.not_lt_zero k)⟩
    | none =>
      simp only [hfirst] at h
      obtain ⟨j, d, rfl, hj, hd, hbefore⟩ := ih h
      refine ⟨j + 1, d, Nat.add_right_comm i 1 j, hj, hd, ?_⟩
      intro k hk d' hd'
      cases k with
      | zero =>
        obtain rfl : first = some d' := by simpa using hd'
        exact hfirst
      | succ k => exact hbefore k (Nat.lt_of_succ_lt_succ hk) d' hd'

theorem findDevice?_eq_some {f : Device → Option α} {a : α} (h : v.findDevice? f = some (id, a)) :
    ∃ d, v.device? id = some d ∧ f d = some a := by
  obtain ⟨j, d, rfl, hj, hd, -⟩ := firstOf?_eq_some h
  exact ⟨d, by simp [device?, hj], hd⟩

theorem device?_of_controller? {c : InterruptController} (h : v.controller? = some (id, c)) :
    v.device? id = some (.pic c) := by
  obtain ⟨d, hd, hc⟩ := findDevice?_eq_some h
  cases d with
  | pic c' =>
    obtain rfl : c' = c := Option.some.inj hc
    exact hd
  | pit | dma | cmos | external => cases hc

theorem keeps_setController {c c' : InterruptController} (h : v.controller? = some (id, c)) :
    v.Keeps (v.setDevice id (some (.pic c'))) :=
  keeps_setDevice (device?_of_controller? h) rfl

/-! ## Edits -/

/-- What edits from outside do to a session: to its routes, to its services, or to a device other
than a controller. -/
inductive Edited (v : Vm) : Vm → Prop where
  | same : Edited v v
  | io (io : HandlerTable) : Edited v { v with io }
  | services (services : ServiceTable) : Edited v { v with services }
  | device {id : DeviceId} {d d' : Device} (place : v.device? id = some d)
      (other : d.controller? = none) (blank : d'.blank = d.blank) :
      Edited v (v.setDevice id (some d'))

theorem Edited.keeps (h : v.Edited v') : v.Keeps v' := by
  cases h with
  | same => exact .refl v
  | io | services => exact ⟨rfl, rfl, rfl⟩
  | device place _ blank => exact keeps_setDevice place blank

/-! ## Calls -/

theorem guest_settle (v : Vm) (b : Bus) : (v.settle b).guest = b.guest := by
  unfold settle
  dsimp only
  split <;> rfl

theorem keeps_settle (v : Vm) (b : Bus) : v.Keeps (v.settle b) := by
  unfold settle
  dsimp only
  split
  next hc _ => exact (v.keeps_guest b.guest).trans (keeps_setController hc)
  next => exact v.keeps_guest b.guest

theorem settle_eq {c c' : InterruptController} {b : Bus} (h : v.controller? = some (id, c))
    (hb : b.controller = some c') :
    v.settle b = { v with guest := b.guest }.setDevice id (some (.pic c')) := by
  have h' : { v with guest := b.guest }.controller? = some (id, c) := h
  simp only [settle, h', hb]

theorem val_call (h : v.device? id = some d) (clock : Clock)
    (f : Device → Bus → Traced (α × Device × Bus)) :
    (v.call id clock f).val.2 =
      let called := (f d ((v.setDevice id none).bus clock)).val.2
      ((v.setDevice id none).settle called.2).setDevice id (some called.1) := by
  simp only [call, h, Traced.val_bind, Traced.val_pure]

theorem keeps_call (v : Vm) (id : DeviceId) (clock : Clock)
    {f : Device → Bus → Traced (α × Device × Bus)}
    (hf : ∀ d b, (f d b).val.2.1.blank = d.blank) : v.Keeps (v.call id clock f).val.2 := by
  unfold call
  split
  next => exact .refl v
  next d hd =>
    have hlifted := (v.setDevice id none).keeps_settle
      (f d ((v.setDevice id none).bus clock)).val.2.2
    refine ⟨hlifted.id, ?_, hlifted.teardowns⟩
    show (((v.setDevice id none).settle _).setDevice id (some _)).arena = v.arena
    rw [arena_setDevice, hlifted.arena, arena_setDevice, List.set_set, Option.map_some,
      arena_set_blank hd (hf d _)]

theorem keeps_readByte (v : Vm) (clock : Clock) (port : UInt16) :
    v.Keeps (v.readByte clock port).val.2 := by
  unfold readByte
  split
  · exact .refl v
  · exact v.keeps_call _ clock (Device.blank_read port)

theorem keeps_writeByte (v : Vm) (clock : Clock) (port : UInt16) (value : UInt8) :
    v.Keeps (v.writeByte clock port value).val.2 := by
  unfold writeByte
  split
  · exact .refl v
  · exact v.keeps_call _ clock (Device.blank_write port value)

theorem keeps_readBytes (v : Vm) (clock : Clock) (port : UInt16) (width : Nat) :
    v.Keeps (v.readBytes clock port width).val.2 := by
  induction width generalizing v port with
  | zero => exact .refl v
  | succ width ih => exact (v.keeps_readByte clock port).trans (ih _ (port + 1))

theorem keeps_writeBytes (v : Vm) (clock : Clock) (port : UInt16) (values : List UInt8) :
    v.Keeps (v.writeBytes clock port values).val.2 := by
  induction values generalizing v port with
  | nil => exact .refl v
  | cons value values ih => exact (v.keeps_writeByte clock port value).trans (ih _ (port + 1))

theorem keeps_tickDevice (v : Vm) (clock : Clock) (id : DeviceId) :
    v.Keeps (tickDevice clock v id).val :=
  v.keeps_call id clock Device.blank_tick

theorem keeps_tickDevices (v : Vm) (clock : Clock) (ids : List DeviceId) :
    v.Keeps (ids.foldlM (tickDevice clock) v).val := by
  induction ids generalizing v with
  | nil => exact .refl v
  | cons id ids ih => exact (v.keeps_tickDevice clock id).trans (ih _)

theorem keeps_tick (v : Vm) (clock : Clock) : v.Keeps (v.tick clock).val :=
  v.keeps_tickDevices clock v.deviceIds

theorem keeps_syncTimer (v : Vm) (clock : Clock) : v.Keeps (v.syncTimer clock).val := by
  unfold syncTimer
  split
  · exact .refl v
  · exact v.keeps_tickDevice clock _

theorem keeps_raise (v : Vm) (line : UInt8) : v.Keeps (v.raise line).val.2 := by
  unfold raise
  split
  next => exact .refl v
  next hc => exact (v.keeps_guest _).trans (keeps_setController hc)

theorem keeps_deliver (v : Vm) : v.Keeps v.deliver.val.2 := by
  unfold deliver
  split
  next => exact .refl v
  next hc => exact (v.keeps_guest _).trans (keeps_setController hc)

/-! ## Devices and their teardowns -/

/-- All devices that are present are torn down at the session's death, and nothing else is. -/
def Swept (v : Vm) : Prop := v.teardowns = v.deviceIds

theorem deviceIds_eq (v : Vm) :
    v.deviceIds = v.arena.zipIdx.filterMap fun (d, i) => d.map fun _ => i := by
  simp [deviceIds, present, arena, List.zipIdx_map, List.map_filterMap, List.filterMap_map,
    Function.comp_def]

theorem lt_of_mem_deviceIds (h : id ∈ v.deviceIds) : id < v.devices.length := by
  obtain ⟨⟨i, d⟩, hpresent, rfl⟩ := List.mem_map.1 h
  obtain ⟨⟨o, j⟩, ho, hd⟩ := List.mem_filterMap.1 hpresent
  obtain ⟨d', -, hpair⟩ := Option.map_eq_some_iff.1 hd
  obtain ⟨rfl, rfl⟩ := Prod.mk.inj hpair
  exact (List.getElem?_eq_some_iff.1 (List.mem_zipIdx_iff_getElem?.1 ho)).1

theorem swept_new (id : VmId) (memory : Memory) (ioHandlers : Nat) :
    (new id memory ioHandlers).Swept := rfl

theorem Keeps.swept (h : v.Keeps v') (hv : v.Swept) : v'.Swept := by
  rw [Swept, h.teardowns, deviceIds_eq, h.arena, ← deviceIds_eq]
  exact hv

theorem arena_attach (v : Vm) (d : Device) :
    (v.attach d).2.arena = v.arena ++ [some d.blank] := by
  simp [arena, attach]

theorem Swept.attach (hv : v.Swept) (d : Device) : (v.attach d).2.Swept := by
  have hteardowns : (v.attach d).2.teardowns = v.teardowns ++ [v.devices.length] := by
    simp [teardowns, Vm.attach, KillHandler.device?]
  rw [Swept, hteardowns, hv, deviceIds_eq, deviceIds_eq, arena_attach, List.zipIdx_append]
  simp [arena]

/-- **An install** either routes all that the device answers, or takes the device out again with
what was routed until then. -/
theorem install_cases (v : Vm) (d : Device) :
    (∃ io, v.io.addAll v.devices.length d.ranges = (.ok (), io) ∧
      v.install d = (.ok (v.attach d).1, { (v.attach d).2 with io })) ∨
    (∃ e io, v.io.addAll v.devices.length d.ranges = (.error e, io) ∧
      v.install d = (.error e, { (v.attach d).2 with io }.detach (v.attach d).1)) := by
  rcases hadd : v.io.addAll v.devices.length d.ranges with ⟨e | _, io⟩
  · right
    refine ⟨e, io, rfl, ?_⟩
    dsimp only [install, attach]
    rw [hadd]
  · left
    refine ⟨io, rfl, ?_⟩
    dsimp only [install, attach]
    rw [hadd]

/-- A device that is taken out at once leaves nothing behind but its place. -/
theorem arena_retract (v : Vm) (d : Device) :
    ((v.attach d).2.detach (v.attach d).1).arena = v.arena ++ [none] := by
  show ((v.attach d).2.setDevice (v.attach d).1 none).arena = _
  rw [arena_setDevice, arena_attach]
  simp [attach, arena]

/-- A device that is taken out at once registers nothing. -/
theorem Swept.killHandlers_retract (hv : v.Swept) (d : Device) :
    ((v.attach d).2.detach (v.attach d).1).killHandlers = v.killHandlers := by
  have hold : v.killHandlers.filter (fun h => h ≠ .device v.devices.length) = v.killHandlers := by
    refine List.filter_eq_self.2 fun h hh => ?_
    rw [decide_eq_true_iff]
    rintro rfl
    have hmem : v.devices.length ∈ v.teardowns := List.mem_filterMap.2 ⟨_, hh, rfl⟩
    exact Nat.lt_irrefl _ (lt_of_mem_deviceIds (hv ▸ hmem))
  have hall : ((v.attach d).2.detach (v.attach d).1).killHandlers =
      (v.killHandlers ++ [KillHandler.device v.devices.length]).filter fun h =>
        h ≠ KillHandler.device v.devices.length := rfl
  rw [hall, List.filter_append, hold]
  simp

theorem Swept.teardowns_retract (hv : v.Swept) (d : Device) :
    ((v.attach d).2.detach (v.attach d).1).teardowns = v.teardowns := by
  rw [teardowns, hv.killHandlers_retract, teardowns]

theorem Swept.retract (hv : v.Swept) (d : Device) :
    ((v.attach d).2.detach (v.attach d).1).Swept := by
  rw [Swept, hv.teardowns_retract, hv, deviceIds_eq, deviceIds_eq, arena_retract,
    List.zipIdx_append]
  simp

end Vm
end RealModeMonitor
