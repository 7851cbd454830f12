import Mathlib.Algebra.BigOperators.Group.List.Basic
import RealModeMonitor.Proofs.IntervalTimer.Batch
import RealModeMonitor.Proofs.Vm.Course

/-!
# Ticks of a session with built-in devices

In a session without devices from outside only timers notice a host tick. One after the other they
bring their channels up to date and raise the timer's line for what expired. Raising the line
changes the guest and the first controller, expiry changes timers: the two do not meet, so all
timers may as well expire first and the line be raised for all of them afterwards (`tick_eq`).

**Two ticks in place of one.** In that form nothing is left to be said about the guest, masks,
services or deferred interrupts: a tick and a later one raise the line as often as the later one
alone, and where the line is raised in a row it does not matter for which tick (`tick_tick`).
-/

namespace RealModeMonitor

/-! ## Devices -/

namespace Device

variable {d d' : Device} {now later : UInt32}

def isBuiltIn : Device → Bool
  | external _ => false
  | pic _ | pit _ | dma _ | cmos _ => true

theorem isBuiltIn_of_blank (h : d'.blank = d.blank) : d'.isBuiltIn = d.isBuiltIn := by
  cases d <;> cases d' <;> first | rfl | cases h

/-- The device with its expirations done. -/
def expired (now : UInt32) : Device → Device
  | pit t => pit (t.expired now)
  | d => d

/-- How often it is to raise the timer's line. -/
def due (now : UInt32) (d : Device) : Nat := (d.timer?.map fun t => t.due now).getD 0

/-- What its watchers are told. -/
def told (vm : VmId) (now : UInt32) (d : Device) : List Event :=
  (d.timer?.map fun t => t.told vm now).getD []

theorem blank_expired (now : UInt32) (d : Device) : (d.expired now).blank = d.blank := by
  cases d <;> rfl

theorem controller?_expired (now : UInt32) (d : Device) :
    (d.expired now).controller? = d.controller? := by
  cases d <;> rfl

theorem tick_eq (h : d.isBuiltIn = true) (b : Bus) :
    (d.tick b).val =
        ((), d.expired b.clock.now, IntervalTimer.pulse^[d.due b.clock.now] b) ∧
      (d.tick b).events = d.told b.vm b.clock.now := by
  cases d with
  | pit t =>
    have hval := t.val_runExpiry b
    have hevents := t.events_runExpiry b
    simp only [tick, Traced.val_bind, Traced.events_bind, hval, hevents]
    exact ⟨rfl, List.append_nil _⟩
  | pic | dma | cmos => exact ⟨rfl, rfl⟩
  | external => cases h

end Device

namespace Vm

variable {v v' : Vm} {id other : DeviceId} {d : Device} {c c' : InterruptController} {k k' : Clock}
  {now later : UInt32} {ids : List DeviceId} {g : Option Device → Option Device}

/-- All devices are built-in ones. -/
def BuiltIn (v : Vm) : Prop := ∀ p ∈ v.present, p.2.isBuiltIn = true

theorem BuiltIn.device (hv : v.BuiltIn) (h : v.device? id = some d) : d.isBuiltIn = true :=
  hv (id, d) (mem_present_iff.2 h)

theorem Keeps.builtIn (h : v.Keeps v') (hv : v.BuiltIn) : v'.BuiltIn := by
  rintro ⟨id, d'⟩ hd'
  obtain ⟨d, hd, hblank⟩ := device?_of_arena h.arena (mem_present_iff.1 hd')
  rw [Device.isBuiltIn_of_blank hblank.symm]
  exact hv.device hd

/-! ## Places without the first controller -/

section

variable {α : Type} {f : Device → Option α} {a a' : α} {d' : Device}

theorem firstOf?_modify {devices : List (Option Device)} {j : Nat}
    (h : ∀ o, devices[j]? = some o → (g o).bind f = o.bind f) (i : DeviceId) :
    firstOf? f i (devices.modify j g) = firstOf? f i devices := by
  induction devices generalizing i j with
  | nil => rw [List.modify_nil]
  | cons first rest ih =>
    cases j with
    | zero => simp only [List.modify_zero_cons, firstOf?, h first rfl]
    | succ j =>
      rw [List.modify_succ_cons, firstOf?, firstOf?, ih fun o ho => h o (by simpa using ho)]

/-- What is found takes another state. -/
theorem firstOf?_set_found {devices : List (Option Device)} {i j : DeviceId}
    (h : firstOf? f i devices = some (i + j, a)) (hd' : f d' = some a') :
    firstOf? f i (devices.set j (some d')) = some (i + j, a') := by
  induction devices generalizing i j with
  | nil => cases h
  | cons first rest ih =>
    rw [firstOf?] at h
    cases hfirst : first.bind f with
    | some a₀ =>
      obtain ⟨rfl, -⟩ : j = 0 ∧ a₀ = a := by simpa [hfirst] using h
      simp [firstOf?, hd']
    | none =>
      simp only [hfirst] at h
      obtain ⟨j', d₀, hj, -⟩ := firstOf?_eq_some h
      obtain rfl : j = j' + 1 := by
        refine Nat.add_left_cancel (n := i) (hj.trans ?_)
        rw [Nat.add_assoc, Nat.add_comm 1]
      rw [hj] at h ⊢
      rw [List.set_cons_succ, firstOf?]
      simp only [hfirst]
      exact ih h

end

/-! ## Raising the timer's line -/

/-- The session after the timer's line was raised. -/
def pulse (v : Vm) : Vm := (v.raise IntervalTimer.timerLine).val.2

/-- The session with its guest and the controller at `id` in other states. -/
def exchange (v : Vm) (id : DeviceId) (c : InterruptController) (guest : Guest) : Vm :=
  { v with guest }.setDevice id (some (.pic c))

theorem exchange_self (h : v.controller? = some (id, c)) : v.exchange id c v.guest = v := by
  have hplace := device?_of_controller? h
  obtain ⟨hlt, hget⟩ := List.getElem?_eq_some_iff.1
    (show v.devices[id]? = some (some (.pic c)) by
      simpa [device?, Option.join_eq_some_iff] using hplace)
  show { v with devices := v.devices.set id (some (.pic c)) } = v
  rw [← hget, List.set_getElem_self]

theorem exchange_exchange (v : Vm) (id : DeviceId) (c c' : InterruptController)
    (guest guest' : Guest) :
    (v.exchange id c guest).exchange id c' guest' = v.exchange id c' guest' := by
  simp only [exchange, setDevice, List.set_set]

theorem controller?_exchange (h : v.controller? = some (id, c)) (c' : InterruptController)
    (guest : Guest) : (v.exchange id c' guest).controller? = some (id, c') := by
  have hfirst : firstOf? Device.controller? 0 v.devices = some (0 + id, c) := by
    rw [Nat.zero_add]
    exact h
  have hfound : firstOf? Device.controller? 0 (v.devices.set id (some (.pic c'))) =
      some (0 + id, c') := firstOf?_set_found hfirst rfl
  rwa [Nat.zero_add] at hfound

theorem device?_exchange (h : v.controller? = some (id, c)) (c' : InterruptController)
    (guest : Guest) (other : DeviceId) :
    (v.exchange id c' guest).device? other =
      if other = id then some (.pic c') else v.device? other := by
  have hplace : { v with guest }.device? id = some (.pic c) := device?_of_controller? h
  split
  next hid => rw [hid, exchange, device?_setDevice_self hplace]
  next hid => exact device?_setDevice_other (v := { v with guest }) hid _

theorem pulse_none (h : v.controller? = none) : v.pulse = v := by
  simp only [pulse, raise, h, Traced.val_pure]

theorem pulse_eq (h : v.controller? = some (id, c)) :
    let raised := (c.raise v.id IntervalTimer.timerLine v.guest).val.2
    v.pulse = v.exchange id raised.1 raised.2 := by
  simp only [pulse, raise, h, Traced.val_bind, Traced.val_pure]
  rfl

theorem keeps_pulse (v : Vm) : v.Keeps v.pulse := v.keeps_raise _

theorem keeps_pulses (n : Nat) (v : Vm) : v.Keeps (pulse^[n] v) := by
  induction n generalizing v with
  | zero => exact .refl v
  | succ n ih => exact v.keeps_pulse.trans (ih v.pulse)

/-- A device that raises the line over the bus raises it for the session. -/
theorem settle_pulses (v : Vm) (k : Clock) (n : Nat) :
    v.settle (IntervalTimer.pulse^[n] (v.bus k)) = pulse^[n] v := by
  cases h : v.controller? with
  | none =>
    have hbus : (v.bus k).controller = none := by simp [bus, h]
    have hpulse : IntervalTimer.pulse (v.bus k) = v.bus k := by
      rw [IntervalTimer.pulse_eq]
      simp only [Bus.raise, hbus, Traced.val_bind, Traced.val_pure]
    rw [Function.iterate_fixed hpulse, Function.iterate_fixed (pulse_none h)]
    unfold settle
    dsimp only
    split
    next hb => exact absurd (hb.symm.trans hbus) (by simp)
    next => rfl
  | some p =>
    obtain ⟨id, c⟩ := p
    have hall : ∀ n c' guest, v.settle (IntervalTimer.pulse^[n] ⟨v.id, k, guest, some c'⟩) =
        pulse^[n] (v.exchange id c' guest) := by
      intro n
      induction n with
      | zero => exact fun c' guest => settle_eq h rfl
      | succ n ih =>
        intro c' guest
        have hcontroller := controller?_exchange h c' guest
        rw [Function.iterate_succ_apply, Function.iterate_succ_apply, pulse_eq hcontroller,
          exchange_exchange, IntervalTimer.pulse_eq]
        exact ih _ _
    have hbus : v.bus k = ⟨v.id, k, v.guest, some c⟩ := by simp [bus, h]
    rw [hbus, hall, exchange_self h]

/-! ## What the line does not meet -/

/-- The session with what stands at a place changed. -/
def modifyAt (v : Vm) (id : DeviceId) (g : Option Device → Option Device) : Vm :=
  { v with devices := v.devices.modify id g }

/-- A change that leaves controllers as they are, and makes no other device one. -/
structure SparesControllers (g : Option Device → Option Device) : Prop where
  fixed : ∀ c, g (some (.pic c)) = some (.pic c)
  none : ∀ o : Option Device, o.bind Device.controller? = none →
    (g o).bind Device.controller? = none

theorem SparesControllers.controller? (hg : SparesControllers g) (o : Option Device) :
    (g o).bind Device.controller? = o.bind Device.controller? := by
  cases ho : o.bind Device.controller? with
  | none => exact hg.none o ho
  | some c =>
    obtain ⟨d, rfl, hd⟩ := Option.bind_eq_some_iff.1 ho
    cases d <;> cases hd
    rw [hg.fixed]
    rfl

theorem controller?_modifyAt (hg : SparesControllers g) (v : Vm) (id : DeviceId) :
    (v.modifyAt id g).controller? = v.controller? :=
  firstOf?_modify (fun o _ => hg.controller? o) 0

theorem exchange_modifyAt (hg : SparesControllers g) (v : Vm) (id other : DeviceId)
    (c : InterruptController) (guest : Guest) :
    (v.modifyAt other g).exchange id c guest = (v.exchange id c guest).modifyAt other g := by
  have hdevices : (v.devices.modify other g).set id (some (.pic c)) =
      (v.devices.set id (some (.pic c))).modify other g := by
    refine List.ext_getElem? fun j => ?_
    simp only [List.getElem?_set, List.getElem?_modify, List.length_modify]
    by_cases hid : id = j
    · by_cases hother : other = j
      · by_cases hlt : j < v.devices.length <;> simp [hid, hother, hlt, hg.fixed]
      · simp [hid, hother]
    · simp [hid]
  show { v with guest, devices := (v.devices.modify other g).set id (some (.pic c)) } = _
  rw [hdevices]
  rfl

/-- **The line and the change do not meet.** -/
theorem commute_modifyAt (hg : SparesControllers g) (id : DeviceId) :
    Function.Commute pulse fun v => v.modifyAt id g := by
  intro v
  have hcontroller := controller?_modifyAt hg v id
  cases h : v.controller? with
  | none =>
    dsimp only
    rw [pulse_none h, pulse_none (hcontroller.trans h)]
  | some p =>
    obtain ⟨place, c⟩ := p
    dsimp only
    rw [pulse_eq h, pulse_eq (hcontroller.trans h), exchange_modifyAt hg]
    rfl

theorem sparesControllers_expired (now : UInt32) :
    SparesControllers (Option.map (Device.expired now)) where
  fixed c := rfl
  none o ho := by
    rcases o with _ | d
    · rfl
    · cases d <;> first | rfl | cases ho

/-- To put a device back where there is none. -/
theorem sparesControllers_or (h : d.controller? = none) :
    SparesControllers fun o => o.or (some d) where
  fixed c := rfl
  none o ho := by
    cases o with
    | none => exact h
    | some d' => exact ho

/-! ## One device -/

def expireAt (now : UInt32) (v : Vm) (id : DeviceId) : Vm :=
  v.modifyAt id (Option.map (Device.expired now))

def timerAt? (v : Vm) (id : DeviceId) : Option IntervalTimer :=
  (v.device? id).bind Device.timer?

theorem device?_modifyAt (hg : g none = none) (v : Vm) (id other : DeviceId) :
    (v.modifyAt id g).device? other =
      if id = other then g (v.device? other) else v.device? other := by
  simp only [modifyAt, device?, List.getElem?_modify]
  by_cases h : id = other
  · subst h
    rcases v.devices[id]? with _ | o <;> simp [hg]
  · simp [h]

theorem timerAt?_expireAt (now : UInt32) (v : Vm) (id other : DeviceId) :
    (v.expireAt now id).timerAt? other =
      if id = other then (v.timerAt? other).map fun t => t.expired now else v.timerAt? other := by
  rw [timerAt?, expireAt, device?_modifyAt rfl, timerAt?]
  split
  · rcases v.device? other with _ | d
    · rfl
    · cases d <;> rfl
  · rfl

theorem timerAt?_exchange (h : v.controller? = some (id, c)) (c' : InterruptController)
    (guest : Guest) (other : DeviceId) :
    (v.exchange id c' guest).timerAt? other = v.timerAt? other := by
  rw [timerAt?, device?_exchange h, timerAt?]
  split
  next hid => rw [hid, device?_of_controller? h]; rfl
  next => rfl

theorem timerAt?_pulse (v : Vm) (id : DeviceId) : v.pulse.timerAt? id = v.timerAt? id := by
  cases h : v.controller? with
  | none => rw [pulse_none h]
  | some p => rw [pulse_eq h, timerAt?_exchange h]

theorem timerAt?_pulses (n : Nat) (v : Vm) (id : DeviceId) :
    (pulse^[n] v).timerAt? id = v.timerAt? id := by
  induction n generalizing v with
  | zero => rfl
  | succ n ih => rw [Function.iterate_succ_apply, ih, timerAt?_pulse]

/-- How often a device is to raise the timer's line. -/
def dueAt (now : UInt32) (v : Vm) (id : DeviceId) : Nat :=
  ((v.timerAt? id).map fun t => t.due now).getD 0

/-- What the watchers of a device are told. -/
def toldAt (now : UInt32) (v : Vm) (id : DeviceId) : List Event :=
  ((v.timerAt? id).map fun t => t.told v.id now).getD []

theorem getElem?_modifyAt (v : Vm) (id j : DeviceId) :
    (v.modifyAt id g).devices[j]? =
      if id = j then (v.devices[j]?).map g else v.devices[j]? := by
  rw [modifyAt, List.getElem?_modify]
  split
  · rfl
  · exact Option.map_id_apply

theorem setDevice_eq_modifyAt (v : Vm) (id : DeviceId) (o : Option Device) :
    v.setDevice id o = v.modifyAt id fun _ => o := by
  rw [setDevice, List.set_eq_modify]
  rfl

/-- Changes that come to the same for what stands there. -/
theorem modifyAt_congr {g' : Option Device → Option Device}
    (h : g (v.device? id) = g' (v.device? id)) : v.modifyAt id g = v.modifyAt id g' := by
  have hdevices : (v.modifyAt id g).devices = (v.modifyAt id g').devices := by
    refine List.ext_getElem? fun j => ?_
    rw [getElem?_modifyAt, getElem?_modifyAt]
    split
    next hid =>
      subst hid
      rw [device?] at h
      rcases hget : v.devices[id]? with _ | o
      · rfl
      · rw [hget, Option.join_some] at h
        rw [Option.map_some, Option.map_some, h]
    next => rfl
  show { v with devices := (v.modifyAt id g).devices } = _
  rw [hdevices]
  rfl

theorem modifyAt_id (v : Vm) (id : DeviceId) : v.modifyAt id (fun o => o) = v := by
  have hdevices : (v.modifyAt id fun o => o).devices = v.devices := by
    refine List.ext_getElem? fun j => ?_
    rw [getElem?_modifyAt]
    split
    · exact Option.map_id_apply
    · rfl
  show { v with devices := (v.modifyAt id fun o => o).devices } = v
  rw [hdevices]

theorem setDevice_setDevice (v : Vm) (id : DeviceId) (o o' : Option Device) :
    (v.setDevice id o).setDevice id o' = v.setDevice id o' := by
  simp only [setDevice, List.set_set]

/-- A device that is put back does not meet the line. -/
theorem pulses_setDevice (h : v.device? id = none) (hd : d.controller? = none) (n : Nat) :
    (pulse^[n] v).setDevice id (some d) = pulse^[n] (v.setDevice id (some d)) := by
  have hput : ∀ w : Vm, w.device? id = none →
      w.setDevice id (some d) = w.modifyAt id fun o => o.or (some d) := by
    intro w hw
    rw [setDevice_eq_modifyAt]
    exact modifyAt_congr (by rw [hw]; rfl)
  have habsent : (pulse^[n] v).device? id = none := by
    cases hget : (pulse^[n] v).device? id with
    | none => rfl
    | some d' =>
      obtain ⟨d₀, hd₀, -⟩ := device?_of_arena (v.keeps_pulses n).arena hget
      rw [h] at hd₀
      cases hd₀
  rw [hput v h, hput _ habsent]
  exact (((commute_modifyAt (sparesControllers_or hd) id).iterate_left n) v).symm

/-- One device does its expirations and raises the line for them. -/
theorem tickDevice_eq (hv : v.BuiltIn) (k : Clock) (id : DeviceId) :
    (tickDevice k v id).val = pulse^[v.dueAt k.now id] (v.expireAt k.now id) ∧
      (tickDevice k v id).events = v.toldAt k.now id := by
  have hvalue : (tickDevice k v id).val = (v.call id k Device.tick).val.2 := rfl
  have hevents : (tickDevice k v id).events = (v.call id k Device.tick).events := by
    simp [tickDevice]
  rw [hvalue, hevents, dueAt, toldAt, timerAt?]
  cases h : v.device? id with
  | none =>
    have hcall : v.call id k Device.tick = pure (none, v) := by simp only [call, h]
    have hidle : v.expireAt k.now id = v.modifyAt id fun o => o :=
      modifyAt_congr (by rw [h]; rfl)
    rw [hcall, hidle, modifyAt_id]
    exact ⟨rfl, rfl⟩
  | some d =>
    obtain ⟨hval, htold⟩ := Device.tick_eq (hv.device h) ((v.setDevice id none).bus k)
    have hexpired : v.setDevice id (some (d.expired k.now)) = v.expireAt k.now id := by
      rw [setDevice_eq_modifyAt]
      exact modifyAt_congr (by rw [h]; rfl)
    have hback : (pulse^[d.due k.now] (v.setDevice id none)).setDevice id
        (some (d.expired k.now)) = pulse^[d.due k.now] (v.expireAt k.now id) := by
      rw [← hexpired]
      cases hd : d.controller? with
      | none =>
        have hexpired : (d.expired k.now).controller? = none := by
          rw [Device.controller?_expired, hd]
        rw [pulses_setDevice (device?_setDevice_self h none) hexpired, setDevice_setDevice]
      | some c =>
        have hnone : d.due k.now = 0 := by cases d <;> first | rfl | cases hd
        rw [hnone]
        exact setDevice_setDevice v id none _
    refine ⟨?_, ?_⟩
    · rw [val_call h, hval]
      dsimp only
      rw [settle_pulses]
      exact hback
    · simp only [call, h, Traced.events_bind, htold]
      exact List.append_nil _

/-! ## All devices -/

/-- The timers at some places. -/
def timersAt (v : Vm) (ids : List DeviceId) : List IntervalTimer := ids.filterMap v.timerAt?

/-- The timers in the order in which they were attached. -/
def timers (v : Vm) : List IntervalTimer := v.timersAt v.deviceIds

/-- All timers with their expirations done. -/
def expired (v : Vm) (now : UInt32) : Vm :=
  { v with devices := v.devices.map (Option.map (Device.expired now)) }

/-- How often the timer's line is to be raised at `now`. -/
def due (v : Vm) (now : UInt32) : Nat := (v.timers.map fun t => t.due now).sum

/-- What the watchers of all timers are told at `now`. -/
def told (v : Vm) (now : UInt32) : List Event := v.timers.flatMap fun t => t.told v.id now

theorem expireAll_eq (hids : ids.Nodup) (now : UInt32) (v : Vm) (j : Nat) :
    (ids.foldl (expireAt now) v).devices[j]? =
      if j ∈ ids then (v.devices[j]?).map (Option.map (Device.expired now))
      else v.devices[j]? := by
  induction ids generalizing v with
  | nil => rfl
  | cons id ids ih =>
    obtain ⟨hid, hids⟩ := List.nodup_cons.1 hids
    rw [List.foldl_cons, ih hids, expireAt, getElem?_modifyAt]
    by_cases hj : j = id
    · subst hj
      simp [hid]
    · have hj' : id ≠ j := fun h => hj h.symm
      simp [hj, hj']

theorem expireAll_deviceIds (now : UInt32) (v : Vm) :
    v.deviceIds.foldl (expireAt now) v = v.expired now := by
  have hrest : ∀ (ids : List DeviceId) (w : Vm), ids.foldl (expireAt now) w =
      { w with devices := (ids.foldl (expireAt now) w).devices } := by
    intro ids
    induction ids with
    | nil => exact fun w => rfl
    | cons id ids ih =>
      intro w
      rw [List.foldl_cons, ih]
      rfl
  have hdevices : (v.deviceIds.foldl (expireAt now) v).devices =
      v.devices.map (Option.map (Device.expired now)) := by
    refine List.ext_getElem? fun j => ?_
    rw [expireAll_eq v.nodup_deviceIds, List.getElem?_map]
    split
    next => rfl
    next hj =>
      rw [mem_deviceIds_iff, device?] at hj
      rcases hget : v.devices[j]? with _ | _ | d
      · rfl
      · rfl
      · exact absurd ⟨d, by rw [hget]; rfl⟩ hj
  rw [hrest, hdevices]
  rfl

theorem timersAt_pulses (n : Nat) (v : Vm) (ids : List DeviceId) :
    (pulse^[n] v).timersAt ids = v.timersAt ids :=
  List.filterMap_congr fun id _ => timerAt?_pulses n v id

theorem timersAt_expireAt (h : id ∉ ids) (now : UInt32) (v : Vm) :
    (v.expireAt now id).timersAt ids = v.timersAt ids := by
  refine List.filterMap_congr fun other hother => ?_
  have hne : id ≠ other := fun heq => h (heq ▸ hother)
  rw [timerAt?_expireAt, if_neg hne]

theorem commute_expireAll (now : UInt32) (ids : List DeviceId) :
    Function.Commute pulse fun v => ids.foldl (expireAt now) v := by
  induction ids with
  | nil => exact fun v => rfl
  | cons id ids ih =>
    intro v
    show pulse (ids.foldl (expireAt now) (v.expireAt now id)) = _
    rw [ih (v.expireAt now id)]
    exact congrArg (fun w => ids.foldl (expireAt now) w)
      (commute_modifyAt (sparesControllers_expired now) id v)

/-- The devices tick one after the other. What they raise the line for comes last. -/
theorem tickDevices_eq (hv : v.BuiltIn) (k : Clock) (hids : ids.Nodup) :
    (ids.foldlM (tickDevice k) v).val =
        pulse^[((v.timersAt ids).map fun t => t.due k.now).sum] (ids.foldl (expireAt k.now) v) ∧
      (ids.foldlM (tickDevice k) v).events =
        (v.timersAt ids).flatMap fun t => t.told v.id k.now := by
  induction ids generalizing v with
  | nil => exact ⟨rfl, rfl⟩
  | cons id ids ih =>
    obtain ⟨hid, hids⟩ := List.nodup_cons.1 hids
    obtain ⟨hval, hevents⟩ := tickDevice_eq hv k id
    have hkeeps := v.keeps_tickDevice k id
    obtain ⟨hvals, hall⟩ := ih (hkeeps.builtIn hv) hids
    have htimers : (tickDevice k v id).val.timersAt ids = v.timersAt ids := by
      rw [hval, timersAt_pulses, timersAt_expireAt hid]
    have hcons : v.timersAt (id :: ids) = (v.timerAt? id).toList ++ v.timersAt ids := by
      rw [timersAt, List.filterMap_cons]
      cases v.timerAt? id <;> rfl
    rw [htimers] at hvals hall
    rw [List.foldlM_cons, Traced.val_bind, Traced.events_bind, hvals, hall, hevents, hkeeps.id,
      hval, hcons]
    refine ⟨?_, ?_⟩
    · rw [List.map_append, List.sum_append, Nat.add_comm, Function.iterate_add_apply,
        List.foldl_cons, ← ((commute_expireAll k.now ids).iterate_left _).eq (v.expireAt k.now id)]
      congr 2
      rw [dueAt]
      cases v.timerAt? id <;> simp
    · rw [List.flatMap_append, toldAt]
      congr 1
      cases v.timerAt? id <;> simp

/-- **A tick** does all expirations and raises the line for all of them. -/
theorem tick_eq (hv : v.BuiltIn) (k : Clock) :
    (v.tick k).val = pulse^[v.due k.now] (v.expired k.now) ∧ (v.tick k).events = v.told k.now := by
  rw [← expireAll_deviceIds]
  exact tickDevices_eq hv k v.nodup_deviceIds

/-! ## Two ticks -/

theorem deviceIds_of_keeps (h : v.Keeps v') : v'.deviceIds = v.deviceIds := by
  rw [deviceIds_eq, h.arena, ← deviceIds_eq]

theorem keeps_expired (v : Vm) (now : UInt32) : v.Keeps (v.expired now) := by
  refine ⟨rfl, ?_, rfl⟩
  rw [arena, expired, List.map_map, arena]
  refine List.map_congr_left fun o _ => ?_
  cases o with
  | none => rfl
  | some d => exact congrArg some (Device.blank_expired now d)

theorem timers_pulses (n : Nat) (v : Vm) : (pulse^[n] v).timers = v.timers := by
  rw [timers, deviceIds_of_keeps (v.keeps_pulses n), timersAt_pulses, timers]

theorem timers_expired (v : Vm) (now : UInt32) :
    (v.expired now).timers = v.timers.map fun t => t.expired now := by
  rw [timers, deviceIds_of_keeps (v.keeps_expired now), timersAt, timers, timersAt,
    List.map_filterMap]
  refine List.filterMap_congr fun id _ => ?_
  have hdevice : (v.expired now).device? id = (v.device? id).map (Device.expired now) := by
    rw [device?, expired, List.getElem?_map, device?]
    rcases v.devices[id]? with _ | _ | d <;> rfl
  rw [timerAt?, hdevice, timerAt?]
  rcases v.device? id with _ | d
  · rfl
  · cases d <;> rfl

theorem pulses_expired (n : Nat) (v : Vm) (now : UInt32) :
    (pulse^[n] v).expired now = pulse^[n] (v.expired now) := by
  rw [← expireAll_deviceIds, deviceIds_of_keeps (v.keeps_pulses n), ← expireAll_deviceIds]
  exact (((commute_expireAll now v.deviceIds).iterate_left n) v).symm

theorem expired_expired (h : ∀ t ∈ v.timers, t.Near now later) :
    (v.expired now).expired later = v.expired later := by
  have hdevices : ((v.expired now).expired later).devices = (v.expired later).devices := by
    rw [expired, expired, List.map_map, expired]
    refine List.map_congr_left fun o ho => ?_
    rcases o with _ | d
    · rfl
    · cases d with
      | pit t =>
        obtain ⟨id, hid⟩ := List.mem_iff_getElem?.1 ho
        have hplace : v.device? id = some (.pit t) := by rw [device?, hid]; rfl
        have htimer : t ∈ v.timers :=
          List.mem_filterMap.2 ⟨id, mem_deviceIds_iff.2 ⟨_, hplace⟩, by rw [timerAt?, hplace]; rfl⟩
        exact congrArg (fun t => some (Device.pit t)) (IntervalTimer.expired_expired (h t htimer))
      | pic | dma | cmos | external => rfl
  show { v with devices := ((v.expired now).expired later).devices } = _
  rw [hdevices]
  rfl

/-- **Two ticks** leave the session as the later one alone would, and the watchers are told the
same, if in another order. -/
theorem tick_tick (hv : v.BuiltIn) (h : ∀ t ∈ v.timers, t.Near k.now k'.now) :
    ((v.tick k).val.tick k').val = (v.tick k').val ∧
      ((v.tick k).events ++ ((v.tick k).val.tick k').events).Perm (v.tick k').events := by
  obtain ⟨hval, hevents⟩ := tick_eq hv k
  obtain ⟨hval', hevents'⟩ := tick_eq ((v.keeps_tick k).builtIn hv) k'
  obtain ⟨hlater, htold⟩ := tick_eq hv k'
  have htimers : (v.tick k).val.timers = v.timers.map fun t => t.expired k.now := by
    rw [hval, timers_pulses, timers_expired]
  have hdue : v.due k'.now = (v.tick k).val.due k'.now + v.due k.now := by
    rw [due, due, htimers, due, List.map_map, Nat.add_comm, ← List.sum_map_add]
    exact congrArg List.sum (List.map_congr_left fun t ht => IntervalTimer.due_eq_add (h t ht))
  refine ⟨?_, ?_⟩
  · calc ((v.tick k).val.tick k').val
      _ = pulse^[(v.tick k).val.due k'.now] ((v.tick k).val.expired k'.now) := hval'
      _ = pulse^[(v.tick k).val.due k'.now] (pulse^[v.due k.now] (v.expired k'.now)) := by
        rw [hval, pulses_expired, expired_expired h, ← hval]
      _ = pulse^[v.due k'.now] (v.expired k'.now) := by
        rw [← Function.iterate_add_apply, ← hdue]
      _ = (v.tick k').val := hlater.symm
  · rw [hevents, hevents', htold, told, told, htimers, told, (v.keeps_tick k).id, List.flatMap_map]
    exact (List.flatMap_append_perm _ _ _).trans
      (List.Perm.flatMap_left _ fun t ht => IntervalTimer.told_perm v.id (h t ht))

end Vm
end RealModeMonitor
