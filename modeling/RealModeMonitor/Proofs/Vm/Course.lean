import Mathlib.Data.List.InsertIdx
import RealModeMonitor.Proofs.Port.Routing
import RealModeMonitor.Proofs.Vm.Frame

/-!
# The course of a session

While a session lives, places of its arena are never given back, and its kill handlers are only ever
added to. `Vm.Course v added v'` says so of a session that was `v` and is `v'`, where `added` are
the handlers that were registered meanwhile, that the session stays **routed**: each of its port
entries names a device that is there, and that its table of routes was added to and removed from and
not changed in any other way.

Work, whatever a device does in it, touches the guest and the states of devices and nothing else of
the session (`fittings_call`). What is left are the ways to register a device: it is attached, and
perhaps routed (`course_routed`), or taken out again with the routes it got (`course_retract`).
-/

namespace RealModeMonitor

/-! ## Entries of a port table -/

namespace HandlerTable

variable {t t' : HandlerTable} {e : PortEntry} {range : PortRange} {device : DeviceId}

theorem mem_of_get? {port : UInt16} (h : t.get? port = some e) : e ∈ t.entries := by
  obtain ⟨hbefore, -⟩ := Option.filter_eq_some_iff.1 h
  cases hplace : t.placeAfter port with
  | zero => simp [hplace, entryBefore?] at hbefore
  | succ i => exact List.mem_of_getElem? (by simpa [hplace, entryBefore?, entryAt?] using hbefore)

theorem mem_add (h : t.add range device = .ok t') (he : e ∈ t'.entries) :
    e.device = device ∨ e ∈ t.entries := by
  unfold add at h
  simp only at h
  split at h
  · cases h
  · split at h
    · cases h
    · cases h
      rcases List.eq_or_mem_of_mem_insertIdx he with rfl | he
      · exact .inl rfl
      · exact .inr he

theorem mem_remove (range : PortRange) (he : e ∈ (t.remove range).2.entries) : e ∈ t.entries := by
  unfold remove at he
  simp only at he
  split at he
  · exact he
  · split at he
    · exact List.mem_of_mem_eraseIdx he
    · exact he

theorem mem_removeDevice_iff :
    e ∈ (t.removeDevice device).entries ↔ e ∈ t.entries ∧ e.device ≠ device := by
  simp [removeDevice]

theorem step_of_add (h : t.add range device = .ok t') : t.step (.add range device) = t' := by
  rw [step, h]

theorem run_append (t : HandlerTable) (ops ops' : List Op) :
    t.run (ops ++ ops') = (t.run ops).run ops' :=
  List.foldl_append

theorem addAll_cons_of_ok {ranges : List PortRange} (h : t.add range device = .ok t') :
    t.addAll device (range :: ranges) = t'.addAll device ranges := by
  rw [addAll, h]

theorem addAll_cons_of_error {ranges : List PortRange} {error : MonitorError}
    (h : t.add range device = .error error) :
    t.addAll device (range :: ranges) = (.error error, t) := by
  rw [addAll, h]

/-- Adding ranges in order, to the end or not, is a run of additions. -/
theorem exists_addAll_eq_run (t : HandlerTable) (device : DeviceId) (ranges : List PortRange) :
    ∃ ops, (t.addAll device ranges).2 = t.run ops := by
  induction ranges generalizing t with
  | nil => exact ⟨[], rfl⟩
  | cons range ranges ih =>
    cases hadd : t.add range device with
    | error e => exact ⟨[], by rw [addAll_cons_of_error hadd]; rfl⟩
    | ok t' =>
      obtain ⟨ops, hops⟩ := ih t'
      refine ⟨.add range device :: ops, ?_⟩
      rw [addAll_cons_of_ok hadd, hops, run, run, List.foldl_cons, step_of_add hadd]

/-- Whether or not all ranges were added, what came names the device. -/
theorem mem_addAll {ranges : List PortRange} (he : e ∈ (t.addAll device ranges).2.entries) :
    e.device = device ∨ e ∈ t.entries := by
  induction ranges generalizing t with
  | nil => exact .inr he
  | cons range ranges ih =>
    cases hadd : t.add range device with
    | error _ =>
      rw [addAll_cons_of_error hadd] at he
      exact .inr he
    | ok t' =>
      rw [addAll_cons_of_ok hadd] at he
      exact (ih he).elim .inl (mem_add hadd)

end HandlerTable

namespace Vm

variable {α : Type} {v v' v'' : Vm} {id : DeviceId} {d d' : Device}
  {added added' : List KillHandler}

/-! ## What work does not touch -/

/-- The routes and the steps of the teardown. -/
def fittings (v : Vm) : HandlerTable × List KillHandler := (v.io, v.killHandlers)

theorem fittings_settle (v : Vm) (b : Bus) : (v.settle b).fittings = v.fittings := by
  unfold settle
  dsimp only
  split <;> rfl

theorem fittings_call (v : Vm) (id : DeviceId) (clock : Clock)
    (f : Device → Bus → Traced (α × Device × Bus)) :
    (v.call id clock f).val.2.fittings = v.fittings := by
  unfold call
  split
  · rfl
  · exact (v.setDevice id none).fittings_settle _

theorem fittings_readByte (v : Vm) (clock : Clock) (port : UInt16) :
    (v.readByte clock port).val.2.fittings = v.fittings := by
  unfold readByte
  split
  · rfl
  · exact v.fittings_call _ clock _

theorem fittings_writeByte (v : Vm) (clock : Clock) (port : UInt16) (value : UInt8) :
    (v.writeByte clock port value).val.2.fittings = v.fittings := by
  unfold writeByte
  split
  · rfl
  · exact v.fittings_call _ clock _

theorem fittings_readBytes (v : Vm) (clock : Clock) (port : UInt16) (width : Nat) :
    (v.readBytes clock port width).val.2.fittings = v.fittings := by
  induction width generalizing v port with
  | zero => rfl
  | succ width ih => exact (ih _ (port + 1)).trans (v.fittings_readByte clock port)

theorem fittings_writeBytes (v : Vm) (clock : Clock) (port : UInt16) (values : List UInt8) :
    (v.writeBytes clock port values).val.2.fittings = v.fittings := by
  induction values generalizing v port with
  | nil => rfl
  | cons value values ih => exact (ih _ (port + 1)).trans (v.fittings_writeByte clock port value)

theorem fittings_tickDevice (v : Vm) (clock : Clock) (id : DeviceId) :
    (tickDevice clock v id).val.fittings = v.fittings :=
  v.fittings_call id clock _

theorem fittings_tick (v : Vm) (clock : Clock) : (v.tick clock).val.fittings = v.fittings := by
  have hfold : ∀ (ids : List DeviceId) (v : Vm),
      (ids.foldlM (tickDevice clock) v).val.fittings = v.fittings := by
    intro ids
    induction ids with
    | nil => exact fun _ => rfl
    | cons id ids ih => exact fun v => (ih _).trans (v.fittings_tickDevice clock id)
  exact hfold v.deviceIds v

theorem fittings_syncTimer (v : Vm) (clock : Clock) :
    (v.syncTimer clock).val.fittings = v.fittings := by
  unfold syncTimer
  split
  · rfl
  · exact v.fittings_tickDevice clock _

theorem fittings_raise (v : Vm) (line : UInt8) : (v.raise line).val.2.fittings = v.fittings := by
  unfold raise
  split <;> rfl

theorem fittings_deliver (v : Vm) : v.deliver.val.2.fittings = v.fittings := by
  unfold deliver
  split <;> rfl

/-! ## Places -/

theorem device?_map_blank (v : Vm) (id : DeviceId) :
    (v.device? id).map Device.blank = (v.arena[id]?).join := by
  rw [device?, arena, List.getElem?_map]
  rcases v.devices[id]? with _ | _ | d <;> rfl

theorem mem_present_iff : (id, d) ∈ v.present ↔ v.device? id = some d := by
  simp [present, device?, Option.join_eq_some_iff, List.mem_zipIdx_iff_getElem?]

theorem mem_deviceIds_iff : id ∈ v.deviceIds ↔ ∃ d, v.device? id = some d := by
  simp [deviceIds, mem_present_iff]

/-- A device that is there stays there as long as its place does. -/
theorem device?_of_prefix (h : v.arena <+: v'.arena) (hd : v.device? id = some d) :
    ∃ d', v'.device? id = some d' ∧ d'.blank = d.blank := by
  obtain ⟨rest, hrest⟩ := h
  have hplace := getElem?_arena hd
  have hlt := (List.getElem?_eq_some_iff.1 hplace).1
  have hblank := v'.device?_map_blank id
  rw [← hrest, List.getElem?_append_left hlt, hplace, Option.join_some] at hblank
  exact Option.map_eq_some_iff.1 hblank

/-- Devices stand in the arena in the order in which they were attached. -/
theorem pairwise_deviceIds (v : Vm) : v.deviceIds.Pairwise (· < ·) := by
  rw [deviceIds_eq, List.pairwise_filterMap, List.pairwise_iff_getElem]
  intro i j hi hj hij a ha b hb
  simp only [List.getElem_zipIdx, Option.map_eq_some_iff] at ha hb
  obtain ⟨_, _, rfl⟩ := ha
  obtain ⟨_, _, rfl⟩ := hb
  exact Nat.add_lt_add_left hij 0

theorem nodup_deviceIds (v : Vm) : v.deviceIds.Nodup := v.pairwise_deviceIds.imp Nat.ne_of_lt

/-! ## Routes -/

/-- Every port entry names a device that is there. -/
def Routed (v : Vm) : Prop := ∀ e ∈ v.io.entries, v.hasDevice e.device = true

theorem hasDevice_of_prefix (h : v.arena <+: v'.arena) (hid : v.hasDevice id = true) :
    v'.hasDevice id = true := by
  obtain ⟨d, hd⟩ := Option.isSome_iff_exists.1 hid
  obtain ⟨d', hd', -⟩ := device?_of_prefix h hd
  rw [hasDevice, hd']
  rfl

theorem routed_new (id : VmId) (memory : Memory) (ioHandlers : Nat) :
    (new id memory ioHandlers).Routed := nofun

/-- A routed port reaches a device. -/
theorem Routed.device? {port : UInt16} {e : PortEntry} (hv : v.Routed)
    (h : v.io.get? port = some e) : ∃ d, v.device? e.device = some d :=
  Option.isSome_iff_exists.1 (hv e (HandlerTable.mem_of_get? h))

/-- No device went, and every entry that came names one that is there. -/
theorem Routed.mono (hv : v.Routed) (harena : v.arena <+: v'.arena)
    (hio : ∀ e ∈ v'.io.entries, e ∈ v.io.entries ∨ v'.hasDevice e.device = true) : v'.Routed := by
  intro e he
  rcases hio e he with he | he
  · exact hasDevice_of_prefix harena (hv e he)
  · exact he

/-! ## The course -/

structure Course (v : Vm) (added : List KillHandler) (v' : Vm) : Prop where
  id : v'.id = v.id
  arena : v.arena <+: v'.arena
  killHandlers : v'.killHandlers = v.killHandlers ++ added
  routed : v.Routed → v'.Routed
  routes : ∃ ops, v'.io = v.io.run ops

theorem Course.refl (v : Vm) : v.Course [] v :=
  ⟨rfl, List.prefix_refl _, (List.append_nil _).symm, fun h => h, [], rfl⟩

theorem Course.trans (h : v.Course added v') (h' : v'.Course added' v'') :
    v.Course (added ++ added') v'' where
  id := h'.id.trans h.id
  arena := h.arena.trans h'.arena
  killHandlers := by rw [h'.killHandlers, h.killHandlers, List.append_assoc]
  routed hv := h'.routed (h.routed hv)
  routes := by
    obtain ⟨ops, hops⟩ := h.routes
    obtain ⟨ops', hops'⟩ := h'.routes
    exact ⟨ops ++ ops', by rw [hops', hops, HandlerTable.run_append]⟩

/-- Neither routes nor steps of the teardown changed. -/
theorem Keeps.course (h : v.Keeps v') (hfittings : v'.fittings = v.fittings) : v.Course [] v' where
  id := h.id
  arena := h.arena ▸ List.prefix_refl _
  killHandlers := by
    rw [List.append_nil]
    exact congrArg Prod.snd hfittings
  routed hv := by
    have hio : v'.io = v.io := congrArg Prod.fst hfittings
    exact hv.mono (h.arena ▸ List.prefix_refl _) fun e he => .inl (hio ▸ he)
  routes := ⟨[], congrArg Prod.fst hfittings⟩

theorem course_attach (v : Vm) (d : Device) :
    v.Course [.device (v.attach d).1] (v.attach d).2 where
  id := rfl
  arena := v.arena_attach d ▸ List.prefix_append _ _
  killHandlers := rfl
  routed hv := hv.mono (v.arena_attach d ▸ List.prefix_append _ _) fun _ he => .inl he
  routes := ⟨[], rfl⟩

theorem device?_attach (v : Vm) (d : Device) :
    (v.attach d).2.device? (v.attach d).1 = some d := by
  simp [attach, device?]

/-- All of the device's ranges were routed. -/
theorem course_routed {io : HandlerTable} (v : Vm) (d : Device)
    (h : (v.io.addAll v.devices.length d.ranges).2 = io) :
    v.Course [.device (v.attach d).1] { (v.attach d).2 with io } where
  id := rfl
  arena := (v.course_attach d).arena
  killHandlers := rfl
  routed hv := by
    refine hv.mono (v.course_attach d).arena fun e (he : e ∈ io.entries) => ?_
    rcases HandlerTable.mem_addAll (h ▸ he) with heq | he
    · right
      show (v.attach d).2.hasDevice e.device = true
      rw [heq, hasDevice]
      exact Option.isSome_iff_exists.2 ⟨d, v.device?_attach d⟩
    · exact .inl he
  routes := by
    obtain ⟨ops, hops⟩ := v.io.exists_addAll_eq_run v.devices.length d.ranges
    exact ⟨ops, h.symm.trans hops⟩

/-- One of the device's ranges was refused, and those before it went with the device. -/
theorem Swept.course_retract {io : HandlerTable} (hv : v.Swept) (d : Device)
    (h : (v.io.addAll v.devices.length d.ranges).2 = io) :
    v.Course [] ({ (v.attach d).2 with io }.detach (v.attach d).1) where
  id := rfl
  arena := v.arena_retract d ▸ List.prefix_append _ _
  killHandlers := by
    rw [List.append_nil]
    exact hv.killHandlers_retract d
  routed hrouted := by
    refine hrouted.mono (v.arena_retract d ▸ List.prefix_append _ _) fun e he => .inl ?_
    obtain ⟨hmem, hne⟩ := HandlerTable.mem_removeDevice_iff.1 he
    exact (HandlerTable.mem_addAll (h ▸ hmem)).resolve_left hne
  routes := by
    obtain ⟨ops, hops⟩ := v.io.exists_addAll_eq_run v.devices.length d.ranges
    refine ⟨ops ++ [.removeDevice v.devices.length], ?_⟩
    rw [HandlerTable.run_append, ← hops, h]
    rfl

end Vm
end RealModeMonitor
