import RealModeMonitor.Proofs.ModuleTable.Walk
import RealModeMonitor.Proofs.Monitor.Session
import RealModeMonitor.Proofs.Registry.Thinning

/-!
# The death of a session

What a computation tells of deaths and faults is read off its notes (`Traced.deaths`,
`Traced.faults`), and so is what it tells of one session (`Traced.heard`), the calls for it among
that (`Traced.calls`). The teardown of a session notes nothing but what is about it, so a burial
tells of one death, that of the session (`deaths_bury`), and nothing is heard of any other session
(`lastHeard_other`).

**Last rites.** What is heard of a session at its burial depends on the session alone: the modules
that are closed on the way have no say in it (`heard_bury`).
-/

namespace RealModeMonitor

/-! ## Deaths and sessions in the notes -/

/-- The session whose death a diagnostic tells of. -/
def Diagnostic.killed? : Diagnostic → Option VmId
  | vmKilled id => some id
  | _ => none

/-- The session whose fault a diagnostic tells of. -/
def Diagnostic.faulted? : Diagnostic → Option VmId
  | guestFaulted id => some id
  | _ => none

/-- The call that a note records. -/
def Note.event? : Note → Option Event
  | .event e => some e
  | .diagnostic _ => none

namespace Traced

variable {α β : Type} {x : Traced α} {f : α → Traced β} {told : Diagnostic → Option VmId}
  {vm b : VmId}

/-- The sessions that diagnostics of some kind tell of, in order. -/
def tales (told : Diagnostic → Option VmId) (x : Traced α) : List VmId :=
  x.diagnostics.filterMap told

def deaths (x : Traced α) : List VmId := x.tales Diagnostic.killed?

def faults (x : Traced α) : List VmId := x.tales Diagnostic.faulted?

/-- The calls out of the monitor that are made for one session, in order. -/
def calls (b : VmId) (x : Traced α) : List Event := x.events.filter fun e => e.vm = b

@[simp] theorem tales_bind (x : Traced α) (f : α → Traced β) :
    (x >>= f).tales told = x.tales told ++ (f x.val).tales told := by
  simp [tales, diagnostics]

@[simp] theorem tales_map (f : α → β) (x : Traced α) : (f <$> x).tales told = x.tales told := by
  simp [tales, diagnostics]

@[simp] theorem deaths_bind (x : Traced α) (f : α → Traced β) :
    (x >>= f).deaths = x.deaths ++ (f x.val).deaths := tales_bind x f

@[simp] theorem deaths_map (f : α → β) (x : Traced α) : (f <$> x).deaths = x.deaths := tales_map f x

@[simp] theorem faults_bind (x : Traced α) (f : α → Traced β) :
    (x >>= f).faults = x.faults ++ (f x.val).faults := tales_bind x f

@[simp] theorem faults_map (f : α → β) (x : Traced α) : (f <$> x).faults = x.faults := tales_map f x

/-- Calls are among what is heard. -/
theorem calls_eq_heard (b : VmId) (x : Traced α) :
    x.calls b = (x.heard b).filterMap Note.event? := by
  rw [calls, events, heard, List.filter_filterMap, List.filterMap_filter]
  congr 1
  funext n
  cases n with
  | diagnostic d => simp [Note.event?]
  | event e => simp [Note.event?, Note.vm?, Option.filter]

@[simp] theorem calls_pure (a : α) : (pure a : Traced α).calls b = [] := rfl

@[simp] theorem calls_tell (d : Diagnostic) : (tell d).calls b = [] := rfl

@[simp] theorem calls_bind (x : Traced α) (f : α → Traced β) :
    (x >>= f).calls b = x.calls b ++ (f x.val).calls b := by
  simp [calls]

@[simp] theorem calls_map (f : α → β) (x : Traced α) : (f <$> x).calls b = x.calls b := by
  simp [calls, events]

theorem mem_diagnostics_iff {d : Diagnostic} : d ∈ x.diagnostics ↔ .diagnostic d ∈ x.notes := by
  simp only [diagnostics, List.mem_filterMap, Array.mem_toList_iff]
  constructor
  · rintro ⟨n, hn, hd⟩
    cases n with
    | event e => cases hd
    | diagnostic d' => rwa [Option.some.inj hd] at hn
  · exact fun hd => ⟨_, hd, rfl⟩

theorem mem_faults_iff {id : VmId} : id ∈ x.faults ↔ .guestFaulted id ∈ x.diagnostics := by
  simp only [faults, tales, List.mem_filterMap]
  constructor
  · rintro ⟨d, hd, hid⟩
    cases d <;> cases hid
    exact hd
  · exact fun hd => ⟨_, hd, rfl⟩

/-- A computation that tells of no session's death or fault. -/
structure Quiet (x : Traced α) : Prop where
  deaths : x.deaths = []
  faults : x.faults = []

theorem quiet_pure (a : α) : (pure a : Traced α).Quiet := ⟨rfl, rfl⟩

theorem Quiet.bind (hx : x.Quiet) (hf : (f x.val).Quiet) : (x >>= f).Quiet :=
  ⟨by rw [deaths_bind, hx.deaths, hf.deaths]; rfl, by rw [faults_bind, hx.faults, hf.faults]; rfl⟩

theorem Quiet.map (hx : x.Quiet) (f : α → β) : (f <$> x).Quiet :=
  ⟨by rw [deaths_map, hx.deaths], by rw [faults_map, hx.faults]⟩

theorem Only.tales (hx : x.Only (Note.OfVm vm)) (hfate : ∀ d, d.isFate = false → told d = none) :
    x.tales told = [] := by
  rw [Traced.tales, List.filterMap_eq_nil_iff]
  intro d hd
  exact hfate d ((hx _ (mem_diagnostics_iff.1 hd)).fate d rfl)

theorem Only.quiet (hx : x.Only (Note.OfVm vm)) : x.Quiet where
  deaths := hx.tales fun d hd => by cases d <;> first | rfl | cases hd
  faults := hx.tales fun d hd => by cases d <;> first | rfl | cases hd

theorem Only.quiet_of_remarks (hx : x.Only Note.IsRemark) : x.Quiet :=
  have hwork : x.Only (Note.AtWork ⟨0, 0⟩) := hx.atWork
  hwork.ofVm.quiet

theorem quiet_tell {d : Diagnostic} (h : d.isRemark = true) : (tell d).Quiet :=
  (only_remark h).quiet_of_remarks

theorem Only.calls_other (hx : x.Only (Note.OfVm vm)) (hb : vm ≠ b) : x.calls b = [] := by
  rw [calls_eq_heard, hx.heard_other hb]
  rfl

theorem Only.no_calls (hx : x.Only Note.IsRemark) : x.calls b = [] := by
  rw [calls_eq_heard, hx.not_heard]
  rfl

end Traced

open Traced

/-! ## Modules -/

namespace ModuleTable

theorem notes_load (t : ModuleTable) (i : Nat) : (t.load i).Only Note.IsRemark := by
  unfold load
  split
  · split
    · exact only_pure _
    · exact .bind (only_remark rfl) (only_pure _)
  · exact only_pure _

theorem notes_openModule (t : ModuleTable) (name : String) (least : UInt32) :
    (t.openModule name least).Only Note.IsRemark := by
  rw [openModule_eq]
  refine .bind ?_ (only_pure _)
  exact (Only.foldlM (fun _ => True) _ trivial fun t i _ => ⟨t.notes_load i, trivial⟩).1

theorem notes_closeAll (t : ModuleTable) (names : List String) :
    (t.closeAll names).Only Note.IsRemark := by
  fun_induction closeAll t names with
  | case1 | case2 | case3 => exact only_pure _
  | case4 t name rest i hi e he hpos ih => exact ih
  | case5 t name rest i hi e he hzero ih => exact .bind (only_remark rfl) ih

theorem notes_expunge (t : ModuleTable) (name : String) : (t.expunge name).Only Note.IsRemark := by
  unfold expunge
  split
  · exact only_pure _
  · split
    · exact only_pure _
    · split
      · exact only_pure _
      · exact .after (only_remark rfl) (only_pure _) (only_pure _)

end ModuleTable

namespace Monitor

variable {m : Monitor} {id b vm : VmId} {v : Vm}

theorem notes_openForDevice (t : ModuleTable) (kind : DeviceKind) :
    (openForDevice t kind).Only Note.IsRemark := by
  unfold openForDevice
  split
  · exact t.notes_openModule _ 0
  · exact only_pure _

theorem notes_closeForSession (t : ModuleTable) (name : String) :
    (closeForSession t name).Only Note.IsRemark := by
  refine .bind (t.notes_closeAll [name]) ?_
  dsimp only
  split
  · exact .bind (only_remark rfl) (only_pure _)
  · exact only_pure _

theorem notes_closeForDevice (t : ModuleTable) (kind : DeviceKind) :
    (closeForDevice t kind).Only Note.IsRemark := by
  unfold closeForDevice
  split
  · exact notes_closeForSession t _
  · exact only_pure _

/-! ## The teardown -/

theorem teardownStep_present {device : DeviceId} {d : Device} (h : v.device? device = some d)
    (t : ModuleTable) :
    teardownStep (v, t) (.device device) = do
      d.teardown v.id
      let t ← closeForDevice t d.kind
      Traced.tell (.deviceTornDown v.id d.name)
      return ({ v.setDevice device none with io := v.io.removeDevice device }, t) := by
  simp only [teardownStep, h]
  rfl

theorem teardownStep_gone {device : DeviceId} (h : v.device? device = none) (t : ModuleTable) :
    teardownStep (v, t) (.device device) = pure (v, t) := by
  simp only [teardownStep, h]

theorem only_rite {d : Diagnostic} (h : (Note.diagnostic d).vm? = some vm)
    (hfate : d.isFate = false) : (tell d).Only (Note.OfVm vm) := by
  refine only_tell_of ⟨fun b hb => Option.some.inj (hb.symm.trans h), fun d' hd' => ?_⟩
  cases hd'
  exact hfate

theorem notes_teardownStep (s : Vm × ModuleTable) (h : KillHandler) :
    (teardownStep s h).Only (Note.OfVm s.1.id) ∧ (teardownStep s h).val.1.id = s.1.id := by
  obtain ⟨v, t⟩ := s
  cases h with
  | callback name =>
    exact ⟨.bind (only_rite rfl rfl) (.bind (only_record (Note.ofVm_event rfl)) (only_pure _)), rfl⟩
  | device device =>
    cases hd : v.device? device with
    | none =>
      rw [teardownStep_gone hd]
      exact ⟨only_pure _, rfl⟩
    | some d =>
      rw [teardownStep_present hd]
      have hclosed : (closeForDevice t d.kind).Only (Note.OfVm v.id) :=
        (notes_closeForDevice t d.kind).atWork.ofVm
      exact ⟨.bind (d.notes_teardown v.id)
        (.bind hclosed (.bind (only_rite rfl rfl) (only_pure _))), rfl⟩

theorem notes_teardown (s : Vm × ModuleTable) (hs : List KillHandler) :
    (hs.foldlM teardownStep s).Only (Note.OfVm s.1.id) := by
  refine (Only.foldlM (fun s' : Vm × ModuleTable => s'.1.id = s.1.id) hs rfl ?_).1
  intro s' h hid
  obtain ⟨hnotes, hid'⟩ := notes_teardownStep s' h
  exact ⟨hid ▸ hnotes, hid'.trans hid⟩

/-- A session whose teardown begins. -/
def dying (v : Vm) : Vm := { v with guest.dying := true, killHandlers := [] }

theorem bury_dead (h : m.registry.get? id = none) : m.bury id = pure (false, m) := by
  rw [bury, h]

theorem bury_live (h : m.registry.get? id = some v) :
    m.bury id = do
      let (_, modules) ← v.killHandlers.foldlM teardownStep (dying v, m.modules)
      let modules ← closeForSession modules "vm"
      Traced.tell (.vmKilled id)
      return (true, { m with registry := m.registry.remove id, modules }) := by
  rw [bury, h]
  rfl

theorem deaths_bury (h : m.registry.get? id = some v) : (m.bury id).deaths = [id] := by
  rw [bury_live h]
  have hteardown := (notes_teardown (dying v, m.modules) v.killHandlers).quiet.deaths
  have hclose : ∀ t : ModuleTable, (closeForSession t "vm").deaths = [] :=
    fun t => (notes_closeForSession t "vm").quiet_of_remarks.deaths
  rw [deaths_bind, deaths_bind, hteardown, hclose]
  rfl

theorem faults_bury (m : Monitor) (id : VmId) : (m.bury id).faults = [] := by
  cases h : m.registry.get? id with
  | none => rw [bury_dead h]; rfl
  | some v =>
    rw [bury_live h]
    have hteardown := (notes_teardown (dying v, m.modules) v.killHandlers).quiet.faults
    have hclose : ∀ t : ModuleTable, (closeForSession t "vm").faults = [] :=
      fun t => (notes_closeForSession t "vm").quiet_of_remarks.faults
    rw [faults_bind, faults_bind, hteardown, hclose]
    rfl

/-! ## Last rites -/

/-- What is heard of session `b` when the session `v` dies. -/
def lastHeard (b : VmId) (v : Vm) : List Note :=
  (v.killHandlers.foldlM teardownStep (dying v, .initial)).heard b

/-- The calls made at the session's death. -/
def lastCalls (b : VmId) (v : Vm) : List Event :=
  (v.killHandlers.foldlM teardownStep (dying v, .initial)).calls b

theorem lastCalls_eq (b : VmId) (v : Vm) :
    lastCalls b v = (lastHeard b v).filterMap Note.event? :=
  calls_eq_heard b _

theorem heard_closeForDevice (t : ModuleTable) (kind : DeviceKind) :
    (closeForDevice t kind).heard b = [] :=
  (notes_closeForDevice t kind).not_heard

theorem heard_teardownStep (v : Vm) (t t' : ModuleTable) (h : KillHandler) :
    (teardownStep (v, t) h).heard b = (teardownStep (v, t') h).heard b ∧
      (teardownStep (v, t) h).val.1 = (teardownStep (v, t') h).val.1 := by
  cases h with
  | callback name => exact ⟨rfl, rfl⟩
  | device device =>
    cases hd : v.device? device with
    | none =>
      rw [teardownStep_gone hd, teardownStep_gone hd]
      exact ⟨rfl, rfl⟩
    | some d =>
      rw [teardownStep_present hd, teardownStep_present hd]
      refine ⟨?_, rfl⟩
      simp only [heard_bind, heard_closeForDevice, heard_pure]

theorem heard_teardown (hs : List KillHandler) (v : Vm) (t t' : ModuleTable) :
    (hs.foldlM teardownStep (v, t)).heard b = (hs.foldlM teardownStep (v, t')).heard b := by
  induction hs generalizing v t t' with
  | nil => rfl
  | cons h hs ih =>
    obtain ⟨hheard, hvm⟩ := heard_teardownStep (b := b) v t t' h
    rw [List.foldlM_cons, List.foldlM_cons, heard_bind, heard_bind, hheard]
    congr 1
    rw [← Prod.eta (teardownStep (v, t) h).val, ← Prod.eta (teardownStep (v, t') h).val, hvm]
    exact ih _ _ _

theorem heard_bury (h : m.registry.get? id = some v) (b : VmId) :
    (m.bury id).heard b = lastHeard b v := by
  have hclose : ∀ t : ModuleTable, (closeForSession t "vm").heard b = [] :=
    fun t => (notes_closeForSession t "vm").not_heard
  have hkilled : (tell (.vmKilled id)).heard b = [] := heard_tell rfl
  rw [bury_live h]
  simp only [heard_bind, hclose, hkilled, heard_pure, List.append_nil]
  exact heard_teardown _ _ _ _

/-- Nothing is heard of anybody else at a session's death. -/
theorem lastHeard_other (h : v.id ≠ b) : lastHeard b v = [] :=
  (notes_teardown _ _).heard_other h

/-- Nobody else hears of a session's death. -/
theorem lastCalls_other (h : v.id ≠ b) : lastCalls b v = [] := by
  rw [lastCalls_eq, lastHeard_other h]
  rfl

/-! ## Who goes -/

theorem thins_bury (m : Monitor) (id : VmId) : m.registry.Thins (m.bury id).val.2.registry := by
  rw [registry_bury]
  cases h : m.registry.get? id with
  | none =>
    rw [Registry.remove, h]
    exact .refl _
  | some v => exact Registry.thins_remove h

theorem thins_killAllFaulted (ids : List VmId) (m : Monitor) :
    m.registry.Thins (ids.foldlM killFaulted m).val.registry := by
  induction ids generalizing m with
  | nil => exact .refl _
  | cons id ids ih => exact (m.thins_bury id).trans (ih _)

end Monitor
end RealModeMonitor
