import RealModeMonitor.Proofs.Vm.Tick

/-!
# A session with the standard devices

Of the standard devices a guest's timekeeping needs two, the interrupt controller and the timer.
`Vm.standard` is the session in which these two and the guest are in given states, and the other two
devices as they were made. Whatever happens to the controller, the timer and the guest, the session
remains a standard one, so each operation is an equation between standard sessions: a byte written
to one of the two devices (`writeByte_controller`, `writeByte_timer`), an offer to the guest
(`deliver_standard`), a pulse of the timer's line (`pulse_standard`) and the passing of time
(`tick_standard`).
-/

namespace RealModeMonitor

/-! ## Routes -/

/-- The ports of the standard devices, in the order of the ports. The devices are attached in the
order controller, timer, DMA, CMOS. -/
def standardRoutes : HandlerTable where
  capacity := 64
  entries := [
    ⟨⟨0x00, 0x10, by decide, by decide⟩, 2⟩,
    ⟨⟨0x20, 0x02, by decide, by decide⟩, 0⟩,
    ⟨⟨0x40, 0x04, by decide, by decide⟩, 1⟩,
    ⟨⟨0x70, 0x02, by decide, by decide⟩, 3⟩,
    ⟨⟨0x80, 0x10, by decide, by decide⟩, 2⟩,
    ⟨⟨0xA0, 0x02, by decide, by decide⟩, 0⟩,
    ⟨⟨0xC0, 0x20, by decide, by decide⟩, 2⟩]

theorem get?_standardRoutes_controller :
    ∀ port ∈ [0x20, 0x21, 0xA0, 0xA1],
      (standardRoutes.get? port).map PortEntry.device = some 0 := by
  simp only [List.forall_mem_cons, List.not_mem_nil, false_imp_iff, implies_true, and_true]
  refine ⟨by cbv, by cbv, by cbv, by cbv⟩

theorem get?_standardRoutes_timer :
    ∀ port ∈ [0x40, 0x43], (standardRoutes.get? port).map PortEntry.device = some 1 := by
  simp only [List.forall_mem_cons, List.not_mem_nil, false_imp_iff, implies_true, and_true]
  refine ⟨by cbv, by cbv⟩

namespace Vm

variable {id : VmId} {size : Nat} {c : InterruptController} {t : IntervalTimer} {guest : Guest}

/-- A session with the standard devices: controller, timer and guest in these states. -/
def standard (id : VmId) (size : Nat) (c : InterruptController) (t : IntervalTimer)
    (guest : Guest) : Vm where
  id := id
  guest := guest
  devices := [some (.pic c), some (.pit t), some (.dma .initial), some (.cmos (.initial size))]
  io := standardRoutes
  killHandlers := [.device 0, .device 1, .device 2, .device 3]

theorem timer?_standard : (standard id size c t guest).timer? = some (1, t) := rfl

/-- The bus that a device other than the controller sees. -/
def standardBus (id : VmId) (k : Clock) (c : InterruptController) (guest : Guest) : Bus where
  vm := id
  clock := k
  guest := guest
  controller := some c

/-! ## Writing -/

theorem writeByte_controller (k : Clock) (value : UInt8) {port : UInt16}
    (h : port ∈ [0x20, 0x21, 0xA0, 0xA1]) :
    ((standard id size c t guest).writeByte k port value).val =
      (true, standard id size (c.writeAndDeliver id port value guest).val.1 t
        (c.writeAndDeliver id port value guest).val.2) := by
  obtain ⟨e, he, hdevice⟩ := Option.map_eq_some_iff.1 (get?_standardRoutes_controller port h)
  have hroute : (standard id size c t guest).io.get? port = some e := he
  have hplace : (standard id size c t guest).device? 0 = some (.pic c) := rfl
  simp only [writeByte, hroute, hdevice, Traced.val_bind, Traced.val_pure, val_call hplace]
  rfl

theorem writeByte_timer (k : Clock) (value : UInt8) {port : UInt16} (h : port ∈ [0x40, 0x43]) :
    ((standard id size c t guest).writeByte k port value).val =
      (true, standard id size c (t.writePort port value (standardBus id k c guest)).val guest) := by
  obtain ⟨e, he, hdevice⟩ := Option.map_eq_some_iff.1 (get?_standardRoutes_timer port h)
  have hroute : (standard id size c t guest).io.get? port = some e := he
  have hplace : (standard id size c t guest).device? 1 = some (.pit t) := rfl
  simp only [writeByte, hroute, hdevice, Traced.val_bind, Traced.val_pure, val_call hplace]
  rfl

/-! ## Interrupts and time -/

theorem deliver_standard :
    (standard id size c t guest).deliver.val =
      ((c.deliver id guest).val.1, standard id size (c.deliver id guest).val.2.1 t
        (c.deliver id guest).val.2.2) := rfl

theorem pulse_standard :
    (standard id size c t guest).pulse =
      standard id size (c.raise id IntervalTimer.timerLine guest).val.2.1 t
        (c.raise id IntervalTimer.timerLine guest).val.2.2 := rfl

theorem builtIn_standard : (standard id size c t guest).BuiltIn := by
  intro p hp
  have hpresent : (standard id size c t guest).present =
      [(0, .pic c), (1, .pit t), (2, .dma .initial), (3, .cmos (.initial size))] := rfl
  rw [hpresent] at hp
  simp only [List.mem_cons, List.not_mem_nil, or_false] at hp
  rcases hp with rfl | rfl | rfl | rfl <;> rfl

/-- **Time passes**: the timer is brought up to date, and its line raised as often as it is due. -/
theorem tick_standard (k : Clock) :
    ((standard id size c t guest).tick k).val =
      pulse^[t.due k.now] (standard id size c (t.expired k.now) guest) := by
  have hexpired : (standard id size c t guest).expired k.now =
      standard id size c (t.expired k.now) guest := rfl
  have hdue : (standard id size c t guest).due k.now = t.due k.now := Nat.add_zero _
  rw [(tick_eq builtIn_standard k).1, hexpired, hdue]

/-- The same for the timer alone. -/
theorem syncTimer_standard (k : Clock) :
    ((standard id size c t guest).syncTimer k).val =
      pulse^[t.due k.now] (standard id size c (t.expired k.now) guest) := by
  have hexpired : (standard id size c t guest).expireAt k.now 1 =
      standard id size c (t.expired k.now) guest := rfl
  have hdue : (standard id size c t guest).dueAt k.now 1 = t.due k.now := rfl
  rw [syncTimer, timer?_standard]
  dsimp only
  rw [(tickDevice_eq builtIn_standard k 1).1, hexpired, hdue]

end Vm
end RealModeMonitor
