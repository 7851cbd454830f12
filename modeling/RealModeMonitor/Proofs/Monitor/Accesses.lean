import RealModeMonitor.Proofs.Monitor.Identity
import RealModeMonitor.Proofs.Monitor.Outcome
import RealModeMonitor.Proofs.Vm.Calls

/-!
# Wide accesses, byte by byte

An access to the ports moves up to four bytes, byte `i` at port `port + i`, and the ports may lead
to different devices, or to none.

**Theorem (`wide_access_bytewise`).** A wide access is its bytes in order: as long as the session
lives, the monitor, the calls out of it and the bytes are those of the single accesses one after the
other. If the session dies of the one, it dies of the others.

The two differ in when the monitor looks whether the guest is faulted: once at the end, or after
every byte. A fault stays (`tells_work`), so a session that is well at the end was well all the
time, and its work may be done in one go (`run_inTurn`). One that is not well at the end was buried
on the way (`run_inTurn_dead`).
-/

namespace RealModeMonitor

open Traced

variable {config : Config} {m : Monitor} {id : VmId} {v : Vm}

theorem Registry.set_set {r : Registry} (h : r.get? id = some v) (v' v'' : Vm) :
    (r.set id v').set id v'' = r.set id v'' := by
  have hlive : (r.set id v').get? id = some v' := by rw [get?_set h, if_pos rfl]
  rw [set_eq hlive, set_eq h, set_eq h, put, put, put]
  simp

namespace Monitor

variable {ops : List Op} {works : List Work} {clock : Clock} {ioTrace : Bool}

/-! ## Work in one go -/

/-- Work on a session, and then the next. -/
def inTurn : List Work → Vm → Traced (List Reply × Vm)
  | [], v => pure ([], v)
  | work :: works, v => do
    let (r, v) ← work v
    let (rs, v) ← inTurn works v
    return (r :: rs, v)

/-- What each of some operations does with the session `id`. -/
abbrev Works (clock : Clock) (ioTrace : Bool) (id : VmId) : List Op → List Work → Prop :=
  List.Forall₂ fun op work => op.work? clock ioTrace = some (id, work)

theorem faulted_inTurn (h : Works clock ioTrace id ops works) (hid : v.id = id)
    (hfaulted : v.guest.faulted = true) : (inTurn works v).val.2.guest.faulted = true := by
  induction h generalizing v with
  | nil => exact hfaulted
  | cons hwork _ ih =>
    refine ih ((keeps_work hwork v).id.trans hid) ?_
    rw [tells_work hwork hid, hfaulted, Bool.true_or]

theorem onSession_live {work : Work} (hlive : m.registry.get? id = some v)
    (hwell : (work v).val.2.guest.faulted = false) :
    m.onSession id work =
      (fun y => (y.1, { m with registry := m.registry.set id y.2 })) <$> work v := by
  rw [onSession, hlive, map_eq_pure_bind]
  refine bind_congr_val ?_
  simp only [hwell, Bool.false_eq_true, if_false, pure_bind]

theorem onSession_faulted {work : Work} (hlive : m.registry.get? id = some v)
    (hfaulted : (work v).val.2.guest.faulted = true) :
    (m.onSession id work).val.2.registry.get? id = none := by
  have hlive' : (m.registry.set id (work v).val.2).get? id = some (work v).val.2 := by
    rw [Registry.get?_set hlive, if_pos rfl]
  simp only [onSession, hlive, val_bind, hfaulted, if_true, val_pure, registry_killFaulted]
  rw [Registry.get?_remove hlive', if_pos rfl]

/-- **Work in one go**, for a session that is well at its end. -/
theorem run_inTurn (h : Works m.clock m.ioTrace id ops works) (hlive : m.registry.get? id = some v)
    (hid : v.id = id) (hwell : (inTurn works v).val.2.guest.faulted = false) :
    m.run ops =
      (fun y => (y.1, { m with registry := m.registry.set id y.2 })) <$> inTurn works v := by
  induction ops generalizing m v works with
  | nil =>
    cases h
    show _ = pure (_, { m with registry := m.registry.set id v })
    rw [Registry.set_self hlive]
    rfl
  | cons op ops ih =>
    cases h with | @cons _ work _ works hwork htail =>
    have hid' := (keeps_work hwork v).id.trans hid
    have hwell' : (work v).val.2.guest.faulted = false := by
      by_contra hfaulted
      rw [Bool.not_eq_false] at hfaulted
      exact absurd ((faulted_inTurn htail hid' hfaulted).symm.trans hwell) (by simp)
    have hlive' : (m.registry.set id (work v).val.2).get? id = some (work v).val.2 := by
      rw [Registry.get?_set hlive, if_pos rfl]
    rw [run, perform_work hwork, onSession_live hlive hwell', inTurn]
    simp only [bind_map_left, map_bind, map_pure]
    refine bind_congr_val ?_
    rw [ih (m := { m with registry := m.registry.set id (work v).val.2 }) htail hlive' hid' hwell]
    simp only [bind_map_left, Registry.set_set hlive]

theorem subject?_of_works (h : Works clock ioTrace id ops works) :
    ∀ op ∈ ops, op.subject? = some id := by
  induction h with
  | nil => simp
  | cons hwork _ ih => exact List.forall_mem_cons.2 ⟨subject?_of_work hwork, ih⟩

theorem run_dead (h : ∀ op ∈ ops, op.subject? = some id) (hdead : m.registry.get? id = none) :
    (m.run ops).val.2 = m := by
  induction ops with
  | nil => rfl
  | cons op ops ih =>
    obtain ⟨hop, hops⟩ := List.forall_mem_cons.1 h
    rw [run, val_bind, perform_dead hop hdead]
    exact ih hops

/-- A session that is not well at the end of its work has died. -/
theorem run_inTurn_dead (h : Works m.clock m.ioTrace id ops works)
    (hlive : m.registry.get? id = some v) (hid : v.id = id) (hbefore : v.guest.faulted = false)
    (hafter : (inTurn works v).val.2.guest.faulted = true) :
    (m.run ops).val.2.registry.get? id = none := by
  induction ops generalizing m v works with
  | nil =>
    cases h
    exact absurd (hbefore.symm.trans hafter) (by simp)
  | cons op ops ih =>
    cases h with | @cons _ work _ works hwork htail =>
    have hlive' : (m.registry.set id (work v).val.2).get? id = some (work v).val.2 := by
      rw [Registry.get?_set hlive, if_pos rfl]
    rw [run, perform_work hwork]
    cases hwell : (work v).val.2.guest.faulted with
    | false =>
      rw [onSession_live hlive hwell]
      exact ih (m := { m with registry := m.registry.set id (work v).val.2 }) htail hlive'
        ((keeps_work hwork v).id.trans hid) hwell hafter
    | true =>
      have hdead := onSession_faulted hlive hwell
      have hrest := run_dead (subject?_of_works htail) hdead
      rw [val_bind, val_bind, val_pure, hrest]
      exact hdead

/-- To the session `id` it makes no difference whether `ops` or `op` is performed. If it lives on,
the monitor and the calls out of it are the same. -/
structure ComeTo (m : Monitor) (id : VmId) (ops : List Op) (op : Op) : Prop where
  alive : (m.run ops).val.2.isAlive id = (m.perform op).val.2.isAlive id
  monitor : (m.perform op).val.2.isAlive id = true → (m.run ops).val.2 = (m.perform op).val.2
  events : (m.perform op).val.2.isAlive id = true → (m.run ops).events = (m.perform op).events

/-- Operations on one session come to one operation whose work is theirs in one go. -/
theorem comeTo_of_inTurn {op : Op} {work : Work} (hm : Settled config m)
    (hlive : m.registry.get? id = some v) (hwork : op.work? m.clock m.ioTrace = some (id, work))
    (h : Works m.clock m.ioTrace id ops works) (hsame : (inTurn works v).val.2 = (work v).val.2)
    (hevents : (inTurn works v).events = (work v).events) :
    ComeTo m id ops op ∧ ((m.perform op).val.2.isAlive id = true →
      (m.run ops).val.1 = (inTurn works v).val.1 ∧ (m.perform op).val.1 = (work v).val.1) := by
  have hid := hm.named.id_of_get? hlive
  have hperform := perform_work hwork
  cases hwell : (work v).val.2.guest.faulted with
  | false =>
    have hrun := run_inTurn h hlive hid (hsame ▸ hwell)
    rw [onSession_live hlive hwell] at hperform
    have hstate : (m.run ops).val.2 = (m.perform op).val.2 := by
      rw [hrun, hperform, val_map, val_map, hsame]
    have hcalls : (m.run ops).events = (m.perform op).events := by
      rw [hrun, hperform, events_map, events_map, hevents]
    refine ⟨⟨by rw [hstate], fun _ => hstate, fun _ => hcalls⟩, fun _ => ⟨?_, ?_⟩⟩
    · rw [hrun, val_map]
    · rw [hperform, val_map]
  | true =>
    have hdead := run_inTurn_dead h hlive hid (hm.unfaulted id v hlive) (hsame ▸ hwell)
    have hdead' : (m.perform op).val.2.isAlive id = false := by
      rw [hperform, isAlive, Registry.isAlive, onSession_faulted hlive hwell]
      rfl
    have hnot : (m.perform op).val.2.isAlive id ≠ true := by rw [hdead']; simp
    refine ⟨⟨?_, fun h => absurd h hnot, fun h => absurd h hnot⟩, fun h => absurd h hnot⟩
    rw [hdead', isAlive, Registry.isAlive, hdead]
    rfl

/-! ## Ports -/

/-- Every byte written on its own. -/
def byteWrites (id : VmId) (port : UInt16) (bytes : List UInt8) : List Op :=
  bytes.mapIdx fun i b => .ioOut id (port + UInt16.ofNat i) (.byte b)

/-- Every byte read on its own. -/
def byteReads (id : VmId) (port : UInt16) (width : Nat) : List Op :=
  (List.range width).map fun i => .ioIn id (port + UInt16.ofNat i) (.zeros 1)

theorem add_ofNat_succ (port : UInt16) (i : Nat) :
    port + UInt16.ofNat (i + 1) = port + 1 + UInt16.ofNat i := by
  rw [UInt16.ofNat_add, UInt16.add_assoc, UInt16.add_comm 1]
  rfl

theorem byteWrites_cons (id : VmId) (port : UInt16) (b : UInt8) (bytes : List UInt8) :
    byteWrites id port (b :: bytes) =
      .ioOut id port (.byte b) :: byteWrites id (port + 1) bytes := by
  simp only [byteWrites, List.mapIdx_cons, add_ofNat_succ]
  rw [show port + UInt16.ofNat 0 = port from UInt16.add_zero port]

theorem byteReads_succ (id : VmId) (port : UInt16) (width : Nat) :
    byteReads id port (width + 1) = .ioIn id port (.zeros 1) :: byteReads id (port + 1) width := by
  simp only [byteReads, List.range_succ_eq_map, List.map_cons, List.map_map, Function.comp_def,
    Nat.succ_eq_add_one, add_ofNat_succ]
  rw [show port + UInt16.ofNat 0 = port from UInt16.add_zero port]

/-- What a write does does not depend on the port trace. -/
theorem exists_work_ioOut (clock : Clock) (ioTrace : Bool) (id : VmId) (port : UInt16)
    (operand : Operand) :
    ∃ work, Op.work? clock ioTrace (.ioOut id port operand) = some (id, work) ∧
      ∀ v : Vm, (work v).val = (.output (v.writeBytes clock port operand.bytes).val.1,
          (v.writeBytes clock port operand.bytes).val.2) ∧
        (work v).events = (v.writeBytes clock port operand.bytes).events := by
  refine ⟨_, rfl, fun v => ?_⟩
  cases ioTrace <;> simp [Work.replying, Reply.ofExcept]

theorem exists_work_ioIn (clock : Clock) (ioTrace : Bool) (id : VmId) (port : UInt16)
    (operand : Operand) :
    ∃ work, Op.work? clock ioTrace (.ioIn id port operand) = some (id, work) ∧
      ∀ v : Vm, (work v).val = (.input (v.readBytes clock port operand.width).val.1.1
            (v.readBytes clock port operand.width).val.1.2,
          (v.readBytes clock port operand.width).val.2) ∧
        (work v).events = (v.readBytes clock port operand.width).events := by
  refine ⟨_, rfl, fun v => ?_⟩
  cases ioTrace <;> simp [Work.replying, Reply.ofExcept]

/-- **Writing** bytes on their own, in one go. -/
theorem works_byteWrites (clock : Clock) (ioTrace : Bool) (id : VmId) (port : UInt16)
    (bytes : List UInt8) (v : Vm) :
    ∃ works, Works clock ioTrace id (byteWrites id port bytes) works ∧
      (inTurn works v).val.2 = (v.writeBytes clock port bytes).val.2 ∧
      (inTurn works v).events = (v.writeBytes clock port bytes).events ∧
      ∃ taken : List Bool, (inTurn works v).val.1 = taken.map .output ∧
        (v.writeBytes clock port bytes).val.1 = taken.any fun took => took := by
  induction bytes generalizing port v with
  | nil => exact ⟨[], .nil, rfl, rfl, [], rfl, rfl⟩
  | cons b bytes ih =>
    obtain ⟨works, hworks, hstate, hevents, taken, hreplies, htaken⟩ :=
      ih (port + 1) (v.writeByte clock port b).val.2
    obtain ⟨work, hwork, hone⟩ := exists_work_ioOut clock ioTrace id port (.byte b)
    have hval : (work v).val =
        (.output (v.writeByte clock port b).val.1, (v.writeByte clock port b).val.2) := by
      rw [(hone v).1]
      simp [Operand.byte, Operand.ofBytes, widestAccess, Vm.writeBytes]
    have hcalls : (work v).events = (v.writeByte clock port b).events := by
      rw [(hone v).2]
      simp [Operand.byte, Operand.ofBytes, widestAccess, Vm.writeBytes]
    rw [byteWrites_cons]
    refine ⟨work :: works, .cons hwork hworks, ?_, ?_, (v.writeByte clock port b).val.1 :: taken,
      ?_, ?_⟩
    · simp [inTurn, hval, Vm.writeBytes, hstate]
    · simp [inTurn, hval, hcalls, Vm.writeBytes, hevents]
    · simp [inTurn, hval, hreplies]
    · simp [Vm.writeBytes, htaken]

/-- A byte is answered exactly if its port is routed, and reads as ones if it is not. -/
theorem readByte_routed (v : Vm) (clock : Clock) (port : UInt16) :
    (v.readByte clock port).val.1.1 = (v.io.get? port).isSome ∧
      ((v.readByte clock port).val.1.1 = false → (v.readByte clock port).val.1.2 = 0xFF) := by
  unfold Vm.readByte
  cases v.io.get? port with
  | none => exact ⟨rfl, fun _ => rfl⟩
  | some e => exact ⟨rfl, fun h => by cases h⟩

/-- **Reading** bytes on their own, in one go. -/
theorem works_byteReads (clock : Clock) (ioTrace : Bool) (id : VmId) (port : UInt16)
    (width : Nat) (v : Vm) :
    ∃ works, Works clock ioTrace id (byteReads id port width) works ∧
      (inTurn works v).val.2 = (v.readBytes clock port width).val.2 ∧
      (inTurn works v).events = (v.readBytes clock port width).events ∧
      ∃ given : List (Bool × UInt8),
        (inTurn works v).val.1 = given.map (fun p => .input p.1 [p.2]) ∧
        (v.readBytes clock port width).val.1 = (given.any Prod.fst, given.map Prod.snd) ∧
        ∀ i p, given[i]? = some p → p.1 = (v.io.get? (port + UInt16.ofNat i)).isSome ∧
          (p.1 = false → p.2 = 0xFF) := by
  induction width generalizing port v with
  | zero => exact ⟨[], .nil, rfl, rfl, [], rfl, rfl, fun i p h => by simp at h⟩
  | succ width ih =>
    obtain ⟨works, hworks, hstate, hevents, given, hreplies, hgiven, hrouted⟩ :=
      ih (port + 1) (v.readByte clock port).val.2
    obtain ⟨work, hwork, hone⟩ := exists_work_ioIn clock ioTrace id port (.zeros 1)
    have hwidth : (Operand.zeros 1).width = 1 := rfl
    have hval : (work v).val = (.input (v.readByte clock port).val.1.1
        [(v.readByte clock port).val.1.2], (v.readByte clock port).val.2) := by
      rw [(hone v).1, hwidth]
      simp [Vm.readBytes]
    have hcalls : (work v).events = (v.readByte clock port).events := by
      rw [(hone v).2, hwidth]
      simp [Vm.readBytes]
    rw [byteReads_succ]
    refine ⟨work :: works, .cons hwork hworks, ?_, ?_, (v.readByte clock port).val.1 :: given,
      ?_, ?_, ?_⟩
    · simp [inTurn, hval, Vm.readBytes, hstate]
    · simp [inTurn, hval, hcalls, Vm.readBytes, hevents]
    · simp [inTurn, hval, hreplies]
    · simp [Vm.readBytes, hgiven]
    · intro i p hp
      cases i with
      | zero =>
        obtain rfl := Option.some.inj hp
        rw [show port + UInt16.ofNat 0 = port from UInt16.add_zero port]
        exact readByte_routed v clock port
      | succ i =>
        have hio : (v.readByte clock port).val.2.io = v.io :=
          congrArg Prod.fst (v.fittings_readByte clock port)
        rw [add_ofNat_succ, ← hio]
        exact hrouted i p hp

/-- **A wide access** is its byte accesses in order. -/
theorem wide_access_bytewise (hm : Reachable config m) (hlive : m.isAlive id = true)
    (port : UInt16) (operand : Operand) :
    (ComeTo m id (byteWrites id port operand.bytes) (.ioOut id port operand) ∧
      ((m.perform (.ioOut id port operand)).val.2.isAlive id = true → ∃ taken : List Bool,
        (m.run (byteWrites id port operand.bytes)).val.1 = taken.map .output ∧
          (m.perform (.ioOut id port operand)).val.1 = .output (taken.any fun took => took))) ∧
    ComeTo m id (byteReads id port operand.width) (.ioIn id port operand) ∧
      ((m.perform (.ioIn id port operand)).val.2.isAlive id = true →
        ∃ given : List (Bool × UInt8),
          (m.run (byteReads id port operand.width)).val.1 =
              given.map (fun p => .input p.1 [p.2]) ∧
            (m.perform (.ioIn id port operand)).val.1 =
              .input (given.any Prod.fst) (given.map Prod.snd) ∧
            ∀ i p, given[i]? = some p →
              p.1 = (m.ioHandler? id (port + UInt16.ofNat i)).isSome ∧
                (p.1 = false → p.2 = 0xFF)) := by
  obtain ⟨v, hv⟩ := Option.isSome_iff_exists.1 hlive
  constructor
  · obtain ⟨works, hworks, hstate, hevents, taken, hreplies, htaken⟩ :=
      works_byteWrites m.clock m.ioTrace id port operand.bytes v
    obtain ⟨work, hwork, hwide⟩ := exists_work_ioOut m.clock m.ioTrace id port operand
    obtain ⟨hval, hcalls⟩ := hwide v
    obtain ⟨hcome, hsaid⟩ := comeTo_of_inTurn hm.settled hv hwork hworks
      (hstate.trans (congrArg Prod.snd hval).symm) (hevents.trans hcalls.symm)
    refine ⟨hcome, fun halive => ?_⟩
    obtain ⟨hsingle, hwhole⟩ := hsaid halive
    exact ⟨taken, hsingle.trans hreplies, by rw [hwhole, hval, htaken]⟩
  · obtain ⟨works, hworks, hstate, hevents, given, hreplies, hgiven, hrouted⟩ :=
      works_byteReads m.clock m.ioTrace id port operand.width v
    obtain ⟨work, hwork, hwide⟩ := exists_work_ioIn m.clock m.ioTrace id port operand
    obtain ⟨hval, hcalls⟩ := hwide v
    obtain ⟨hcome, hsaid⟩ := comeTo_of_inTurn hm.settled hv hwork hworks
      (hstate.trans (congrArg Prod.snd hval).symm) (hevents.trans hcalls.symm)
    refine ⟨hcome, fun halive => ?_⟩
    obtain ⟨hsingle, hwhole⟩ := hsaid halive
    refine ⟨given, hsingle.trans hreplies, by rw [hwhole, hval, hgiven], fun i p hp => ?_⟩
    rw [ioHandler?, hv]
    exact hrouted i p hp

/-- A session with an interrupt that is requested and masked, and with a stack outside memory. -/
def masked : Monitor :=
  let b : VmId := ⟨0, 0⟩
  ((started { guestMemory := 0x500 }).run
    [.create, .installPic b, .installDma b, .ioOut b 0x21 (.byte 0xFF), .enableInterrupts b,
      .raiseIrq b 5]).val.2

/-- A read over the last port comes to the DMA controller at the first ones. A write over the
interrupt controller ends the session, as its first byte lets the interrupt through. -/
theorem wide_access_of_masked :
    let b : VmId := ⟨0, 0⟩
    let read : Op := .ioIn b 0xFFFF (.zeros 4)
    let write : Op := .ioOut b 0x21 (.ofBytes [0, 0xAB])
    Reachable { guestMemory := 0x500 } masked ∧ masked.isAlive b = true ∧
      (masked.perform read).val.2.isAlive b = true ∧
      (masked.run (byteReads b 0xFFFF 4)).val.2 = (masked.perform read).val.2 ∧
      (masked.perform read).val.1 = .input true [0xFF, 0, 0, 0] ∧
      (masked.perform write).val.2.isAlive b = false ∧
      (masked.run (byteWrites b 0x21 [0, 0xAB])).val.2.isAlive b = false := by
  intro b read write
  have hreachable : Reachable { guestMemory := 0x500 } masked := reachable_run rfl _
  have hlive : masked.isAlive b = true := by cbv
  have hread : (masked.perform read).val.2.isAlive b = true := by cbv
  have hwrite : (masked.perform write).val.2.isAlive b = false := by cbv
  obtain ⟨-, hreads, -⟩ := wide_access_bytewise hreachable hlive 0xFFFF (.zeros 4)
  obtain ⟨⟨hwrites, -⟩, -⟩ := wide_access_bytewise hreachable hlive 0x21 (.ofBytes [0, 0xAB])
  exact ⟨hreachable, hlive, hread, hreads.monitor hread, by cbv, hwrite,
    hwrites.alive.trans hwrite⟩

end Monitor
end RealModeMonitor
