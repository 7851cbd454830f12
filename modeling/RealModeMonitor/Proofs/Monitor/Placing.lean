import RealModeMonitor.Proofs.Monitor.Isolation
import RealModeMonitor.Proofs.Vm.Standard

/-!
# One session at a time

A host that starts sessions and works on them one after the other sees each operation change one
session. `Placed config m id v m'` says so: `m'` is a sound monitor in which session `id` is `v`, at
the time of `m` and with all other slots as in `m`.

Sessions are started in the slots in order (`createVm_placed`), get the standard devices
(`installStandardDevices_placed`), and stay standard while they are worked on
(`withVm_standard`).
-/

namespace RealModeMonitor

/-- A session starts in the first slot that is free. -/
theorem Registry.create_first {r : Registry} {i : Nat} (memory : Memory) (ioHandlers : Nat)
    (hfree : r.slots[i]? = some {})
    (hbefore : ∀ j < i, ∃ s, r.slots[j]? = some s ∧ s.vm.isSome = true) :
    r.create memory ioHandlers =
      .ok (⟨UInt16.ofNat i, 0⟩,
        r.put i ⟨0, some (Vm.new ⟨UInt16.ofNat i, 0⟩ memory ioHandlers)⟩) := by
  obtain ⟨hlt, hslot⟩ := Array.getElem?_eq_some_iff.1 hfree
  have hfirst : (r.slots.findIdx? fun s => s.vm.isNone) = some i := by
    rw [Array.findIdx?_eq_some_iff_getElem]
    refine ⟨hlt, by rw [hslot]; rfl, ?_⟩
    intro j hj
    obtain ⟨s, hs, hsome⟩ := hbefore j hj
    obtain ⟨_, rfl⟩ := Array.getElem?_eq_some_iff.1 hs
    rw [← Option.not_isSome, hsome]
    decide
  simp only [create, hfirst, hfree]
  rfl

namespace Monitor

open Traced

variable {α : Type} {config : Config} {m m' m'' : Monitor} {id : VmId} {v v' : Vm} {size : Nat}
  {c c' : InterruptController} {t t' : IntervalTimer} {guest guest' : Guest}

/-! ## Placing -/

structure Placed (config : Config) (m : Monitor) (id : VmId) (v : Vm) (m' : Monitor) : Prop where
  sound : Sound config m'
  clock : m'.clock = m.clock
  live : m'.registry.get? id = some v
  others : ∀ j, j ≠ id.slot.toNat → m'.registry.slots[j]? = m.registry.slots[j]?

theorem Placed.refl (hm : Sound config m) (live : m.registry.get? id = some v) :
    Placed config m id v m :=
  ⟨hm, rfl, live, fun _ _ => rfl⟩

theorem Placed.trans (h : Placed config m id v m') (h' : Placed config m' id v' m'') :
    Placed config m id v' m'' where
  sound := h'.sound
  clock := h'.clock.trans h.clock
  live := h'.live
  others j hj := (h'.others j hj).trans (h.others j hj)

/-- A session in another slot stays as it is. -/
theorem Placed.get?_other (h : Placed config m id v m') {other : VmId}
    (hslot : other.slot ≠ id.slot) : m'.registry.get? other = m.registry.get? other := by
  have hnat : other.slot.toNat ≠ id.slot.toNat := fun heq => hslot (UInt16.toNat_inj.1 heq)
  rw [Registry.get?, Registry.slot?, h.others _ hnat]
  rfl

theorem placed_set {modules : ModuleTable} (live : m.registry.get? id = some v)
    (hsound : Sound config { m with modules, registry := m.registry.set id v' }) :
    Placed config m id v' { m with modules, registry := m.registry.set id v' } where
  sound := hsound
  clock := rfl
  live := by rw [Registry.get?_set live, if_pos rfl]
  others j hj := by
    dsimp only
    rw [Registry.set_eq live, Registry.getElem?_put, if_neg hj.symm]

/-! ## Work -/

theorem withVm_placed {f : Vm → Traced (Except MonitorError α × Vm)} {r : Except MonitorError α}
    (hm : Sound config m) (live : m.registry.get? id = some v) (hf : (f v).val = (r, v'))
    (hkeeps : v.Keeps v') (hfaulted : v'.guest.faulted = false) :
    ∃ m', (m.withVm id f).val = (r, m') ∧ Placed config m id v' m' := by
  refine ⟨{ m with registry := m.registry.set id v' }, ?_, ?_⟩
  · simp [withVm, live, hf, hfaulted]
  · exact placed_set live (hm.step (.work live hkeeps))

theorem keeps_standard :
    (Vm.standard id size c t guest).Keeps (Vm.standard id size c' t' guest') :=
  ⟨rfl, rfl, rfl⟩

/-- Work on a standard session that leaves it a standard one. -/
theorem withVm_standard {f : Vm → Traced (Except MonitorError α × Vm)}
    {r : Except MonitorError α} (hm : Sound config m)
    (live : m.registry.get? id = some (Vm.standard id size c t guest))
    (hf : (f (Vm.standard id size c t guest)).val = (r, Vm.standard id size c' t' guest'))
    (hfaulted : guest'.faulted = false) :
    ∃ m', (m.withVm id f).val = (r, m') ∧
      Placed config m id (Vm.standard id size c' t' guest') m' :=
  withVm_placed hm live hf keeps_standard hfaulted

/-! ## Starting a session -/

theorem createVm_placed {i : Nat} (hm : Sound config m) (hfree : m.registry.slots[i]? = some {})
    (hbefore : ∀ j < i, ∃ s, m.registry.slots[j]? = some s ∧ s.vm.isSome = true) :
    ∃ m', m.createVm.val = (.ok ⟨UInt16.ofNat i, 0⟩, m') ∧
      Placed config m ⟨UInt16.ofNat i, 0⟩
        (Vm.new ⟨UInt16.ofNat i, 0⟩ (.blank config.guestMemory) config.maxIoHandlers) m' := by
  have hallocate : Memory.allocate config.guestMemory = .ok (.blank config.guestMemory) := by
    obtain ⟨memory, hmemory⟩ := memory_allocate hm.usable
    unfold Memory.allocate at hmemory ⊢
    split at hmemory
    · cases hmemory
    next hsize => rw [if_neg hsize]
  obtain ⟨registry, hregistry, hcreate⟩ : ∃ registry,
      registry = m.registry.put i ⟨0, some (Vm.new ⟨UInt16.ofNat i, 0⟩ (.blank config.guestMemory)
        config.maxIoHandlers)⟩ ∧
      m.registry.create (.blank config.guestMemory) config.maxIoHandlers =
        .ok (⟨UInt16.ofNat i, 0⟩, registry) :=
    ⟨_, rfl, m.registry.create_first _ _ hfree hbefore⟩
  have hopen := ModuleTable.openModule_ok hm.infos (show ModuleTable.IsBuiltin "vm" by decide)
  obtain ⟨modules, hval⟩ :
      ∃ modules, (m.modules.openModule "vm" 0).val = (.ok (), modules) := ⟨_, Prod.ext hopen rfl⟩
  have hslot : (UInt16.ofNat i).toNat = i := by
    have hlt := (Array.getElem?_eq_some_iff.1 hfree).1
    have hsize := hm.named.size
    rw [UInt16.toNat_ofNat']
    exact Nat.mod_eq_of_lt (by unfold mostSlots at hsize; omega)
  have hsound : Sound config { m with registry, modules } := by
    rw [← hm.config_eq] at hcreate
    exact hm.step (.create hcreate hval)
  refine ⟨{ m with registry, modules }, ?_, hsound, rfl, ?_, ?_⟩
  · simp only [createVm, hm.config_eq, hallocate, hcreate, val_bind, hval]
    rfl
  · rw [Registry.get?_create hm.named hcreate, if_pos rfl]
  · intro j hj
    rw [hslot] at hj
    rw [hregistry, Registry.getElem?_put, if_neg hj.symm]

/-! ## Installing the standard devices -/

/-- The routes of the first `n` standard devices. -/
def routesOfFirst (n : Nat) : HandlerTable :=
  { standardRoutes with entries := standardRoutes.entries.filter fun e => e.device < n }

/-- A new session with the first `n` standard devices. -/
def furnished (id : VmId) (memory : Memory) (n : Nat) : Vm :=
  let v := Vm.standard id memory.size .initial .initial { memory }
  { v with
    devices := v.devices.take n
    io := routesOfFirst n
    killHandlers := v.killHandlers.take n }

theorem install_eq {d : Device} {n : Nat} {io : HandlerTable} (hn : v.devices.length = n)
    (hroutes : v.io.addAll n d.ranges = (.ok (), io)) :
    v.install d = (.ok n, { v with
      devices := v.devices ++ [some d]
      io
      killHandlers := v.killHandlers ++ [.device n] }) := by
  subst hn
  obtain ⟨io', hadd, hinstall⟩ | ⟨e, io', hadd, -⟩ := v.install_cases d
  all_goals rw [hroutes] at hadd; cases hadd
  exact hinstall

theorem install_furnished (id : VmId) (memory : Memory) :
    (furnished id memory 0).install (.pic .initial) = (.ok 0, furnished id memory 1) ∧
    (furnished id memory 1).install (.pit .initial) = (.ok 1, furnished id memory 2) ∧
    (furnished id memory 2).install (.dma .initial) = (.ok 2, furnished id memory 3) ∧
    (furnished id memory 3).install (.cmos (.initial memory.size)) =
      (.ok 3, furnished id memory 4) := by
  have hpic : (routesOfFirst 0).addAll 0 (Device.pic .initial).ranges =
      (.ok (), routesOfFirst 1) := by
    cbv
  have hpit : (routesOfFirst 1).addAll 1 (Device.pit .initial).ranges =
      (.ok (), routesOfFirst 2) := by
    cbv
  have hdma : (routesOfFirst 2).addAll 2 (Device.dma .initial).ranges =
      (.ok (), routesOfFirst 3) := by
    cbv
  have hcmos : ∀ r, (routesOfFirst 3).addAll 3 (Device.cmos r).ranges =
      (.ok (), routesOfFirst 4) := by
    intro r
    cbv
  exact ⟨install_eq rfl hpic, install_eq rfl hpit, install_eq rfl hdma, install_eq rfl (hcmos _)⟩

theorem installDevice_placed {d : Device} {device : DeviceId} (hm : Sound config m)
    (live : m.registry.get? id = some v) (hinstall : v.install d = (.ok device, v')) :
    ∃ m', (m.installDevice id d).val = (.ok device, m') ∧ Placed config m id v' m' := by
  obtain ⟨-, modules, hval⟩ := installDevice_live hm live d
  rw [hinstall] at hval
  have hsound := hm.steps (m.evolves_installDevice id d).steps
  rw [hval] at hsound
  exact ⟨_, hval, placed_set live hsound⟩

theorem val_inOrder_ok {f : Monitor → Traced (Except MonitorError DeviceId × Monitor)}
    {device : DeviceId} (hf : (f m).val = (.ok device, m'))
    (fs : List (Monitor → Traced (Except MonitorError DeviceId × Monitor))) :
    (m.inOrder (f :: fs)).val = (m'.inOrder fs).val := by
  rw [inOrder, val_bind, hf]

/-- A new session gets the standard devices. -/
theorem installStandardDevices_placed {memory : Memory} (hm : Sound config m)
    (live : m.registry.get? id = some (Vm.new id memory 64)) :
    ∃ m', (m.installStandardDevices id).val = (.ok (), m') ∧
      Placed config m id (Vm.standard id memory.size .initial .initial { memory }) m' := by
  obtain ⟨hpic, hpit, hdma, hcmos⟩ := install_furnished id memory
  obtain ⟨m₁, hval₁, h₁⟩ := installDevice_placed hm live hpic
  obtain ⟨m₂, hval₂, h₂⟩ := installDevice_placed h₁.sound h₁.live hpit
  obtain ⟨m₃, hval₃, h₃⟩ := installDevice_placed h₂.sound h₂.live hdma
  -- The CMOS memory is made after a look at the session.
  obtain ⟨m₄, hlook, h₄⟩ : ∃ m₄, (m₃.inspectVm id fun v => .ok v.guest.memory.size).val =
      (.ok memory.size, m₄) ∧ Placed config m₃ id (furnished id memory 3) m₄ :=
    withVm_placed h₃.sound h₃.live rfl (.refl _) rfl
  obtain ⟨m₅, hval₅, h₅⟩ := installDevice_placed h₄.sound h₄.live hcmos
  have hlast : (m₃.installCmos id).val = (.ok 3, m₅) := by
    rw [installCmos, val_bind, hlook]
    exact hval₅
  refine ⟨m₅, ?_, (((h₁.trans h₂).trans h₃).trans h₄).trans h₅⟩
  rw [installStandardDevices, val_inOrder_ok hval₁, val_inOrder_ok hval₂, val_inOrder_ok hval₃,
    val_inOrder_ok hlast]
  rfl

end Monitor
end RealModeMonitor
