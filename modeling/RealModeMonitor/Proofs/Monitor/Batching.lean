import RealModeMonitor.Proofs.ModuleTable.Closing
import RealModeMonitor.Proofs.Monitor.Accounting
import RealModeMonitor.Proofs.Monitor.Isolation
import RealModeMonitor.Proofs.Vm.Fault
import RealModeMonitor.Proofs.Vm.Tick

/-!
# Ticks in one batch

**Theorem (`ticks_batched`).** In a monitor whose devices are all built-in ones, a tick of `a` and
then one of `b` leave the monitor as one tick of `a + b` does, and each session that lives on has
its watchers told as often. No timer may be left alone for so long that the counter goes round.

Every session ticks on its own, and there two ticks come to one (`Vm.tick_tick`). What is left are
the deaths at the end of a tick. A session that dies in the first of two ticks has a faulted guest
in the single tick as well, because a fault stays. So the same sessions die, earlier or later, and
each takes the same references with it (`Vm.dues`). The order in which the references are given back
makes no difference (`closeAll_perm`), and neither does it to slots and host lines: they lose what
the dead held, whenever it died (`Registry.Thins.unique`).
-/

namespace RealModeMonitor

open Traced ModuleTable

/-! ## What a session owes -/

namespace Vm

variable {v v' : Vm} {d : Device}

/-- The modules that are closed at the session's death. -/
def dues (v : Vm) : List String := v.deviceModules ++ ["vm"]

theorem Keeps.dues (h : v.Keeps v') : v'.dues = v.dues := by
  rw [Vm.dues, deviceModules_eq_arena, h.arena, ← deviceModules_eq_arena, Vm.dues]

theorem isBuiltin_deviceModules (v : Vm) : ∀ name ∈ v.deviceModules, IsBuiltin name := by
  intro name hname
  obtain ⟨⟨_, d⟩, -, hd⟩ := List.mem_filterMap.1 hname
  exact Monitor.isBuiltin_moduleName hd

theorem isBuiltin_dues (v : Vm) : ∀ name ∈ v.dues, IsBuiltin name :=
  isBuiltin_append v.isBuiltin_deviceModules (by decide)

end Vm

namespace Monitor

variable {config : Config} {m : Monitor} {id b : VmId} {v : Vm} {k : Clock} {n : UInt32}

theorem val_closeForDevice (t : ModuleTable) (kind : DeviceKind) :
    (closeForDevice t kind).val = (t.closeAll kind.moduleName?.toList).val.2 := by
  unfold closeForDevice
  cases kind.moduleName? with
  | none => rw [Option.toList_none, closeAll_nil]; rfl
  | some name => exact val_closeForSession t name

/-- A teardown closes the modules of the devices that are there. -/
theorem modules_teardown (hs : List KillHandler) (v : Vm) {t : ModuleTable}
    (ht : t.infos = builtin) (hnodup : (hs.filterMap KillHandler.device?).Nodup) :
    (hs.foldlM teardownStep (v, t)).val.2 =
      (t.closeAll (v.modulesAt (hs.filterMap KillHandler.device?))).val.2 := by
  induction hs generalizing v t with
  | nil =>
    show t = (t.closeAll []).val.2
    rw [closeAll_nil]
    rfl
  | cons h hs ih =>
    rw [List.foldlM_cons, val_bind]
    cases h with
    | callback name => exact ih v ht hnodup
    | device device =>
      obtain ⟨hdevice, hrest⟩ := List.nodup_cons.1
        (show (device :: hs.filterMap KillHandler.device?).Nodup from hnodup)
      have hcons : (KillHandler.device device :: hs).filterMap KillHandler.device? =
          device :: hs.filterMap KillHandler.device? := rfl
      rw [hcons, Vm.modulesAt_cons]
      cases hd : v.device? device with
      | none =>
        rw [teardownStep_gone hd]
        exact ih v ht hrest
      | some d =>
        have hname : ∀ name ∈ d.kind.moduleName?.toList, IsBuiltin name := by
          intro name hname
          exact isBuiltin_moduleName (Option.mem_toList.1 hname)
        rw [teardownStep_present hd, Option.bind_some, closeAll_append ht hname,
          ← val_closeForDevice]
        refine (ih _ ((infos_closeForDevice t d.kind).trans ht) hrest).trans ?_
        rw [Vm.modulesAt_setDevice hdevice]

theorem modules_bury (hm : Sound config m) (h : m.registry.get? id = some v) :
    (m.bury id).val.2.modules = (m.modules.closeAll v.dues).val.2 := by
  have hswept : v.killHandlers.filterMap KillHandler.device? = v.deviceIds := hm.swept id v h
  have hmodules : (m.bury id).val.2.modules =
      (closeForSession
        (v.killHandlers.foldlM teardownStep (dying v, m.modules)).val.2 "vm").val := by
    rw [bury_live h]
    rfl
  have hteardown := modules_teardown v.killHandlers (dying v) hm.infos
    (by rw [hswept]; exact v.nodup_deviceIds)
  rw [hmodules, val_closeForSession, hteardown, hswept, Vm.dues,
    closeAll_append hm.infos v.isBuiltin_deviceModules, v.deviceModules_eq_modulesAt]
  rfl

end Monitor

/-- What the session with this name owes. -/
def Registry.dues (r : Registry) (id : VmId) : List String := ((r.get? id).map Vm.dues).getD []

namespace Monitor

variable {config : Config} {m : Monitor} {id b : VmId} {v : Vm} {k : Clock} {n : UInt32}

theorem modules_killAllFaulted (hm : Sound config m) {ids : List VmId} (hids : ids.Nodup) :
    (ids.foldlM killFaulted m).val.modules =
      (m.modules.closeAll (ids.flatMap m.registry.dues)).val.2 := by
  induction ids generalizing m with
  | nil =>
    show m.modules = (m.modules.closeAll []).val.2
    rw [closeAll_nil]
    rfl
  | cons id ids ih =>
    obtain ⟨hid, hids⟩ := List.nodup_cons.1 hids
    rw [List.foldlM_cons, val_bind, List.flatMap_cons]
    cases h : m.registry.get? id with
    | none =>
      have hsame : (m.killFaulted id).val = m := by
        show (m.bury id).val.2 = m
        rw [bury_dead h]
        rfl
      rw [hsame, Registry.dues, h]
      exact ih hm hids
    | some v =>
      have hnext : Sound config (m.killFaulted id).val := hm.step (.bury h)
      have hdues : ids.flatMap (m.killFaulted id).val.registry.dues =
          ids.flatMap m.registry.dues := by
        refine List.flatMap_congr fun other hother => ?_
        have hne : other ≠ id := fun heq => hid (heq ▸ hother)
        rw [registry_killFaulted, Registry.dues, Registry.get?_remove h, if_neg hne, Registry.dues]
      have hmodules : (m.killFaulted id).val.modules = (m.modules.closeAll v.dues).val.2 :=
        modules_bury hm h
      rw [ih hnext hids, hdues, hmodules, ← closeAll_append hm.infos v.isBuiltin_dues,
        Registry.dues, h]
      rfl

/-! ## One tick -/

/-- The sessions after a tick, those among them whose guests are faulted. -/
def casualties (m : Monitor) (n : UInt32) : List VmId :=
  faultedIds (m.vmIds.foldlM (tickSession (m.clock.advance n)) m.registry).val

theorem nodup_casualties (hm : Sound config m) (n : UInt32) : (m.casualties n).Nodup := by
  have hnamed := wellNamed_tickSessions hm.named (m.clock.advance n) m.vmIds
  exact hnamed.nodup_ids.sublist (faultedIds_sublist _)

theorem mem_casualties_iff (hm : Sound config m) :
    b ∈ m.casualties n ↔ ∃ v, m.registry.get? b = some v ∧
      (v.tick (m.clock.advance n)).val.guest.faulted = true := by
  have hnamed := wellNamed_tickSessions hm.named (m.clock.advance n) m.vmIds
  rw [casualties, mem_faultedIds_iff hnamed, vmIds, (tickAll_eq hm.named _ b).1]
  cases m.registry.get? b with
  | none => simp [ticked]
  | some v => simp [ticked]

theorem timerTick_run (m : Monitor) (n : UInt32) :
    (m.timerTick n).val = ((m.casualties n).foldlM killFaulted
      { m with
        clock := m.clock.advance n
        registry := (m.vmIds.foldlM (tickSession (m.clock.advance n)) m.registry).val }).val := rfl

theorem modules_timerTick (hm : Sound config m) (n : UInt32) :
    (m.timerTick n).val.modules =
      (m.modules.closeAll ((m.casualties n).flatMap m.registry.dues)).val.2 := by
  have hticked : Sound config
      { m with
        clock := m.clock.advance n
        registry := (m.vmIds.foldlM (tickSession (m.clock.advance n)) m.registry).val } :=
    have hclock : Sound config (m.advanceClock n) := hm.step (.elsewhere rfl rfl rfl)
    hclock.steps
      (evolves_tickSessions (m.clock.advance n) m.vmIds (m.advanceClock n)).steps
  have hdues : (m.vmIds.foldlM (tickSession (m.clock.advance n)) m.registry).val.dues =
      m.registry.dues := by
    funext id
    rw [Registry.dues, vmIds, (tickAll_eq hm.named _ id).1, Registry.dues]
    cases m.registry.get? id with
    | none => rfl
    | some v => exact (v.keeps_tick _).dues
  rw [timerTick_run, modules_killAllFaulted hticked (nodup_casualties hm n), hdues]

theorem host_bury (m : Monitor) (id : VmId) :
    (m.bury id).val.2.config = m.config ∧ (m.bury id).val.2.shell = m.shell := by
  unfold bury
  split <;> exact ⟨rfl, rfl⟩

theorem host_timerTick (m : Monitor) (n : UInt32) :
    (m.timerTick n).val.config = m.config ∧ (m.timerTick n).val.shell = m.shell := by
  have hall : ∀ (ids : List VmId) (m : Monitor),
      (ids.foldlM killFaulted m).val.config = m.config ∧
        (ids.foldlM killFaulted m).val.shell = m.shell := by
    intro ids
    induction ids with
    | nil => exact fun m => ⟨rfl, rfl⟩
    | cons id ids ih =>
      intro m
      obtain ⟨hconfig, hshell⟩ := ih (m.killFaulted id).val
      obtain ⟨hconfig', hshell'⟩ := m.host_bury id
      exact ⟨hconfig.trans hconfig', hshell.trans hshell'⟩
  rw [timerTick_run]
  exact hall _ _

/-! ## Two ticks -/

theorem advance_advance (k : Clock) (a b : UInt32) :
    (k.advance a).advance b = k.advance (a + b) := by
  simp [Clock.advance, UInt32.add_assoc]

/-- All devices of all sessions are built-in ones. -/
def BuiltIn (m : Monitor) : Prop := ∀ v ∈ m.registry.vms, v.BuiltIn

/-- The counter does not go round for any armed channel if `n` more ticks pass. -/
def Near (m : Monitor) (n : Nat) : Prop :=
  ∀ v ∈ m.registry.vms, ∀ t ∈ v.timers, ∀ i : Fin 3, (t.channel i).armed = true →
    (ticksSince m.clock.now (t.channel i).start).toNat + n < UInt32.size

variable {a : UInt32}

theorem Near.timers (h : m.Near (a.toNat + n.toNat)) (hm : Sound config m)
    (hlive : m.registry.get? id = some v) :
    ∀ t ∈ v.timers, t.Near (m.clock.advance a).now ((m.clock.advance a).advance n).now := by
  intro t ht i harmed
  have hroom := h v (hm.named.get?_eq_some_iff_mem.1 hlive).1 t ht i harmed
  have hfirst := ticksSince_add m.clock.now a
  have hsecond := ticksSince_add (m.clock.now + a) n
  have hsum : (ticksSince m.clock.now (t.channel i).start).toNat +
      (ticksSince (m.clock.now + a) m.clock.now).toNat < UInt32.size := by
    rw [hfirst]
    omega
  simp only [Clock.now_advance]
  rw [hsecond, Channel.toNat_ticksSince_later hsum, hfirst]
  omega

theorem faulted_tick (h : v.guest.faulted = true) (k : Clock) :
    (v.tick k).val.guest.faulted = true := by
  have hreports : (v.tick k).val.guest.faulted = (v.guest.faulted || (v.tick k).strays v.id) :=
    v.reports_tick k
  rw [hreports, h, Bool.true_or]

/-- Whom the first of two ticks leaves faulted, the second would. -/
theorem survivor_tick_tick {k' : Clock}
    (h : ((v.tick k).val.tick k').val = (v.tick k').val) :
    (ticked k' (survivor (v.tick k).val)).val.bind survivor = survivor (v.tick k').val := by
  by_cases hfaulted : (v.tick k).val.guest.faulted = true
  · have hlater := faulted_tick hfaulted k'
    rw [h] at hlater
    simp [survivor, hfaulted, hlater, ticked]
  · simp [survivor, hfaulted, ticked, h]

section

variable (hm : Sound config m) (hbuiltin : m.BuiltIn) (hnear : m.Near (a.toNat + n.toNat))

include hm hbuiltin hnear in
theorem tick_tick_live (hlive : m.registry.get? id = some v) :
    ((v.tick (m.clock.advance a)).val.tick ((m.clock.advance a).advance n)).val =
        (v.tick (m.clock.advance (a + n))).val ∧
      ((v.tick (m.clock.advance a)).events ++
        ((v.tick (m.clock.advance a)).val.tick ((m.clock.advance a).advance n)).events).Perm
          (v.tick (m.clock.advance (a + n))).events := by
  rw [← advance_advance]
  have hmem := (hm.named.get?_eq_some_iff_mem.1 hlive).1
  exact Vm.tick_tick (hbuiltin v hmem) (hnear.timers hm hlive)

include hm hbuiltin hnear in
/-- The same sessions live on, in the same state. -/
theorem get?_two_ticks (b : VmId) : ((m.timerTick a).val.timerTick n).val.registry.get? b =
    (m.timerTick (a + n)).val.registry.get? b := by
  rw [get?_timerTick (sound_timerTick hm _), clock_timerTick hm, get?_timerTick hm,
    get?_timerTick hm]
  cases hlive : m.registry.get? b with
  | none => rfl
  | some v =>
    have htwo := (tick_tick_live hm hbuiltin hnear hlive).1
    rw [← advance_advance] at htwo ⊢
    exact survivor_tick_tick htwo

include hm hbuiltin hnear in
/-- The same sessions die. -/
theorem casualties_two_ticks :
    (m.casualties a ++ (m.timerTick a).val.casualties n).Perm (m.casualties (a + n)) := by
  have hnext : Sound config (m.timerTick a).val := sound_timerTick hm _
  have hsecond : ∀ b, b ∈ (m.timerTick a).val.casualties n ↔ ∃ v, m.registry.get? b = some v ∧
      (v.tick (m.clock.advance a)).val.guest.faulted = false ∧
      (v.tick (m.clock.advance (a + n))).val.guest.faulted = true := by
    intro b
    rw [mem_casualties_iff hnext, get?_timerTick hm, clock_timerTick hm]
    cases hlive : m.registry.get? b with
    | none => simp [ticked]
    | some v =>
      have htwo := (tick_tick_live hm hbuiltin hnear hlive).1
      cases hfaulted : (v.tick (m.clock.advance a)).val.guest.faulted <;>
        simp [ticked, survivor, hfaulted, htwo]
  refine (List.perm_ext_iff_of_nodup ?_ (nodup_casualties hm _)).2 fun b => ?_
  · refine List.nodup_append.2 ⟨nodup_casualties hm a, nodup_casualties hnext n, ?_⟩
    rintro b hb b' hb' rfl
    obtain ⟨v, hv, hfaulted⟩ := (mem_casualties_iff hm).1 hb
    obtain ⟨w, hw, hsound, -⟩ := (hsecond b).1 hb'
    obtain rfl := Option.some.inj (hv.symm.trans hw)
    rw [hfaulted] at hsound
    cases hsound
  · rw [List.mem_append, mem_casualties_iff hm, hsecond, mem_casualties_iff hm]
    constructor
    · rintro (⟨v, hv, hfaulted⟩ | ⟨v, hv, -, hfaulted⟩)
      · refine ⟨v, hv, ?_⟩
        rw [← (tick_tick_live hm hbuiltin hnear hv).1]
        exact faulted_tick hfaulted _
      · exact ⟨v, hv, hfaulted⟩
    · rintro ⟨v, hv, hfaulted⟩
      cases hfirst : (v.tick (m.clock.advance a)).val.guest.faulted with
      | true => exact .inl ⟨v, hv, hfirst⟩
      | false => exact .inr ⟨v, hv, hfirst, hfaulted⟩

include hm hbuiltin hnear in
/-- The same references are given back. -/
theorem modules_two_ticks :
    ((m.timerTick a).val.timerTick n).val.modules = (m.timerTick (a + n)).val.modules := by
  have hnext : Sound config (m.timerTick a).val := sound_timerTick hm _
  have hbuiltins : ∀ ids : List VmId, ∀ name ∈ ids.flatMap m.registry.dues, IsBuiltin name := by
    intro ids name hname
    obtain ⟨id, -, hid⟩ := List.mem_flatMap.1 hname
    rw [Registry.dues] at hid
    cases hlive : m.registry.get? id with
    | none => simp [hlive] at hid
    | some v =>
      rw [hlive] at hid
      exact v.isBuiltin_dues name hid
  have hdues : ((m.timerTick a).val.casualties n).flatMap (m.timerTick a).val.registry.dues =
      ((m.timerTick a).val.casualties n).flatMap m.registry.dues := by
    refine List.flatMap_congr fun b hb => ?_
    obtain ⟨w, hw, -⟩ := (mem_casualties_iff hnext).1 hb
    rw [Registry.dues, Registry.dues]
    rw [get?_timerTick hm] at hw ⊢
    cases hlive : m.registry.get? b with
    | none =>
      rw [hlive] at hw
      cases hw
    | some v =>
      have hsurvivor : survivor (v.tick (m.clock.advance a)).val = some w := by
        rwa [hlive] at hw
      have hw' : (v.tick (m.clock.advance a)).val = w := by
        unfold survivor at hsurvivor
        split at hsurvivor
        · cases hsurvivor
        · exact Option.some.inj hsurvivor
      show ((survivor (v.tick (m.clock.advance a)).val).map Vm.dues).getD [] = v.dues
      rw [hsurvivor, ← hw']
      exact (v.keeps_tick _).dues
  rw [modules_timerTick hnext, modules_timerTick hm, modules_timerTick hm, hdues,
    ← closeAll_append hm.infos (hbuiltins _), ← List.flatMap_append]
  exact congrArg Prod.snd (closeAll_perm hm.infos (hbuiltins _)
    ((casualties_two_ticks hm hbuiltin hnear).flatMap_right _))

include hm hbuiltin hnear in
theorem two_ticks :
    ((m.timerTick a).val.timerTick n).val = (m.timerTick (a + n)).val := by
  have hnext : Sound config (m.timerTick a).val := sound_timerTick hm _
  have hregistry : ((m.timerTick a).val.timerTick n).val.registry =
      (m.timerTick (a + n)).val.registry :=
    Registry.Thins.unique hm.named.size ((m.thins_timerTick a).trans (thins_timerTick _ n))
      (m.thins_timerTick (a + n)) (get?_two_ticks hm hbuiltin hnear)
  have hclock : ((m.timerTick a).val.timerTick n).val.clock = (m.timerTick (a + n)).val.clock := by
    rw [clock_timerTick hnext, clock_timerTick hm, clock_timerTick hm, advance_advance]
  have htrace : ((m.timerTick a).val.timerTick n).val.ioTrace =
      (m.timerTick (a + n)).val.ioTrace := by
    have hall : ∀ {m : Monitor}, Sound config m → ∀ n, (m.timerTick n).val.ioTrace = m.ioTrace :=
      fun hm n => congrArg View.ioTrace (timerTick_eq hm n ⟨0, 0⟩).1
    rw [hall hnext, hall hm, hall hm]
  have hmodules := modules_two_ticks hm hbuiltin hnear
  obtain ⟨hconfig, hshell⟩ := m.host_timerTick (a + n)
  obtain ⟨hconfig₁, hshell₁⟩ := m.host_timerTick a
  obtain ⟨hconfig₂, hshell₂⟩ := (m.timerTick a).val.host_timerTick n
  have hconfigs := (hconfig₂.trans hconfig₁).trans hconfig.symm
  have hshells := (hshell₂.trans hshell₁).trans hshell.symm
  generalize ((m.timerTick a).val.timerTick n).val = m₁ at *
  generalize (m.timerTick (a + n)).val = m₂ at *
  obtain ⟨config₁, clock₁, registry₁, modules₁, shell₁, ioTrace₁⟩ := m₁
  obtain ⟨config₂, clock₂, registry₂, modules₂, shell₂, ioTrace₂⟩ := m₂
  cases hconfigs
  cases hclock
  cases hregistry
  cases hmodules
  cases hshells
  cases htrace
  rfl

include hm in
/-- What a session that lives on is called for in a tick. -/
theorem calls_timerTick (hlive : m.registry.get? id = some v)
    (hsound : (v.tick (m.clock.advance n)).val.guest.faulted = false) :
    (m.timerTick n).calls id = (v.tick (m.clock.advance n)).calls id := by
  rw [calls_eq_heard, (timerTick_eq hm n id).2, hlive, calls_eq_heard]
  simp [ticked, lastWords, hsound]

include hm hbuiltin hnear in
theorem calls_two_ticks (halive : (m.timerTick (a + n)).val.isAlive id = true) :
    ((m.timerTick a).calls id ++ ((m.timerTick a).val.timerTick n).calls id).Perm
      ((m.timerTick (a + n)).calls id) := by
  have hnext : Sound config (m.timerTick a).val := sound_timerTick hm _
  rw [isAlive, Registry.isAlive, get?_timerTick hm] at halive
  cases hlive : m.registry.get? id with
  | none => simp [hlive, ticked] at halive
  | some v =>
    obtain ⟨htwo, hevents⟩ := tick_tick_live hm hbuiltin hnear hlive
    have hsound : (v.tick (m.clock.advance (a + n))).val.guest.faulted = false := by
      cases hfaulted : (v.tick (m.clock.advance (a + n))).val.guest.faulted with
      | false => rfl
      | true => simp [hlive, ticked, survivor, hfaulted] at halive
    have hsound₁ : (v.tick (m.clock.advance a)).val.guest.faulted = false := by
      cases hfaulted : (v.tick (m.clock.advance a)).val.guest.faulted with
      | false => rfl
      | true =>
        have hlater := faulted_tick hfaulted ((m.clock.advance a).advance n)
        rw [htwo, hsound] at hlater
        cases hlater
    have hlive₁ : (m.timerTick a).val.registry.get? id =
        some (v.tick (m.clock.advance a)).val := by
      rw [get?_timerTick hm, hlive]
      simp [ticked, survivor, hsound₁]
    have hsound₂ : ((v.tick (m.clock.advance a)).val.tick
        ((m.timerTick a).val.clock.advance n)).val.guest.faulted = false := by
      rw [clock_timerTick hm, htwo, hsound]
    rw [calls_timerTick hm hlive hsound, calls_timerTick hm hlive hsound₁,
      calls_timerTick hnext hlive₁ hsound₂, clock_timerTick hm]
    rw [calls, calls, calls, ← List.filter_append]
    exact hevents.filter _

end

/-- **Ticks in one batch.** A tick after another leaves the monitor as one tick of both lengths
does, and the sessions that live on are called for the same, if in another order. A clock that is
advanced without a tick leaves it so as well. -/
theorem ticks_batched {a b : UInt32} (hm : Reachable config m) (hbuiltin : m.BuiltIn)
    (hsum : a.toNat + b.toNat < UInt32.size) (hnear : m.Near (a + b).toNat) :
    (m.run [.timerTick a, .timerTick b]).val.2 = (m.run [.timerTick (a + b)]).val.2 ∧
      (∀ id, (m.run [.timerTick (a + b)]).val.2.isAlive id = true →
        ((m.run [.timerTick a, .timerTick b]).calls id).Perm
          ((m.run [.timerTick (a + b)]).calls id)) ∧
      (m.run [.advanceClock a, .timerTick b]).val.2 = (m.run [.timerTick (a + b)]).val.2 := by
  rw [UInt32.toNat_add, Nat.mod_eq_of_lt hsum] at hnear
  have hone : ∀ (m : Monitor) op, (m.run [op]).val.2 = (m.perform op).val.2 := fun m op => rfl
  have htwo : ∀ (m : Monitor) op op',
      (m.run [op, op']).val.2 = ((m.perform op).val.2.perform op').val.2 := fun m op op' => rfl
  have htick : ∀ (m : Monitor) n, (m.perform (.timerTick n)).val.2 = (m.timerTick n).val :=
    fun m n => rfl
  have hadvance : ∀ (m : Monitor) n, (m.perform (.advanceClock n)).val.2 = m.advanceClock n :=
    fun m n => rfl
  have hcalls : ∀ (m : Monitor) n id,
      (m.perform (.timerTick n)).calls id = (m.timerTick n).calls id := by
    intro m n id
    simp [perform]
  have hlast : ∀ (m : Monitor) op id, (m.run [op]).calls id = (m.perform op).calls id := by
    intro m op id
    rw [calls_run_cons]
    exact List.append_nil _
  rw [hone, htwo, htwo, htick, htick, htick, htick, hadvance]
  refine ⟨two_ticks hm.sound hbuiltin hnear, fun id halive => ?_, ?_⟩
  · rw [calls_run_cons, hlast, hlast, hcalls, htick, hcalls, hcalls]
    exact calls_two_ticks hm.sound hbuiltin hnear halive
  · have hclock : (m.advanceClock a).advanceClock b = m.advanceClock (a + b) := by
      simp only [advanceClock, advance_advance]
    unfold timerTick
    rw [hclock]

/-- A timer whose interrupt finds no stack, so that the session dies in the first tick, beside one
whose interrupts wait. The watcher is told of the expiration that falls in the first tick and of the
one that falls in the second. -/
theorem batched_with_casualty :
    ∃ m, Reachable { guestMemory := 0x500 } m ∧ m.BuiltIn ∧
      (20 : UInt32).toNat + (20 : UInt32).toNat < UInt32.size ∧
      m.Near ((20 : UInt32) + 20).toNat ∧ m.casualties 20 = [⟨0, 0⟩] ∧
      (m.run [.timerTick (20 + 20)]).calls ⟨1, 0⟩ =
        [.timerExpired ⟨1, 0⟩ 0 "meter", .timerExpired ⟨1, 0⟩ 0 "meter"] ∧
      (m.run [.timerTick 20, .timerTick 20]).val.2 = (m.run [.timerTick (20 + 20)]).val.2 := by
  have hcomputed : ∀ m : Monitor, Reachable { guestMemory := 0x500 } m →
      (m.registry.vms.all fun v => v.present.all fun p => p.2.isBuiltIn) = true →
      (m.registry.vms.all fun v => v.timers.all fun t => (List.finRange 3).all fun i =>
        (t.channel i).armed →
          (ticksSince m.clock.now (t.channel i).start).toNat + 40 < UInt32.size) = true →
      m.BuiltIn ∧ m.Near ((20 : UInt32) + 20).toNat ∧
        (m.run [.timerTick 20, .timerTick 20]).val.2 = (m.run [.timerTick (20 + 20)]).val.2 := by
    intro m hm hkinds hages
    have hbuiltin : m.BuiltIn := by simpa [BuiltIn, Vm.BuiltIn] using hkinds
    have hnear : m.Near ((20 : UInt32) + 20).toNat := by
      simpa [Near, or_iff_not_imp_left] using hages
    exact ⟨hbuiltin, hnear, (ticks_batched hm hbuiltin (by decide) hnear).1⟩
  have hreachable : Reachable { guestMemory := 0x500 } _ := reachable_run rfl
    [.create, .create, .installPic ⟨0, 0⟩, .installPit ⟨0, 0⟩, .ioOut ⟨0, 0⟩ 0x43 (.byte 0x34),
      .ioOut ⟨0, 0⟩ 0x40 (.byte 16), .ioOut ⟨0, 0⟩ 0x40 (.byte 0), .enableInterrupts ⟨0, 0⟩,
      .installPic ⟨1, 0⟩, .installPit ⟨1, 0⟩, .watchTimer ⟨1, 0⟩ 0 (some "meter"),
      .ioOut ⟨1, 0⟩ 0x43 (.byte 0x34), .ioOut ⟨1, 0⟩ 0x40 (.byte 16), .ioOut ⟨1, 0⟩ 0x40 (.byte 0)]
  obtain ⟨hbuiltin, hnear, hticks⟩ := hcomputed _ hreachable (by cbv) (by cbv)
  exact ⟨_, hreachable, hbuiltin, by decide, hnear, by cbv, by cbv, hticks⟩

end Monitor
end RealModeMonitor
