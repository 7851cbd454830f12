import RealModeMonitor.Proofs.Monitor.Isolation
import RealModeMonitor.Proofs.Monitor.Rites
import RealModeMonitor.Proofs.Monitor.Work

/-!
# What becomes of a session

For one session, an operation comes to one of three things (`Fate`): the session was dead before and
nothing is heard of it; it lives on, with nothing gone from its arena and some steps added to its
teardown; or it dies, and then its teardown is heard, each step once.

Operations are put together from a few pieces, and fates compose (`Fate.bind`). `Passes` says of a
piece that it decides the fate of every session, that sessions only go while it runs, and that the
monitor is sound afterwards. There is one lemma for each kind of piece: those that touch no session
(`passes_idle`), those that put one back (`passes_put`), work on a session, which dies if it is left
with a faulted guest (`passes_withVm`), and ticks (`passes_timerTick`).

**Settled monitors.** Between operations no guest is faulted, every route leads to a device that is
there, and every host line that is owned is owned by a live session (`Settled`). What passes leaves
a settled monitor settled (`Passes.settled`).
-/

namespace RealModeMonitor.Monitor

open Traced

variable {α β : Type} {config : Config} {m m' : Monitor} {b c id : VmId} {v v' : Vm}

/-! ## Settled monitors -/

structure Settled (config : Config) (m : Monitor) : Prop extends Sound config m where
  unfaulted : ∀ (id : VmId) (v : Vm), m.registry.get? id = some v → v.guest.faulted = false
  routed : ∀ (id : VmId) (v : Vm), m.registry.get? id = some v → v.Routed
  owned : ∀ (irq : UInt8) (id : VmId),
    m.registry.irqOwner? irq = some id → m.registry.isAlive id = true

/-! ## Fates -/

/-- What becomes of session `b` while `x` runs from `m` on: which steps are added to its teardown,
and whether it dies. -/
inductive Fate (b : VmId) (m : Monitor) (x : Traced (α × Monitor)) :
    List KillHandler → Bool → Prop where
  | dead (before : m.registry.get? b = none) (after : x.val.2.registry.get? b = none)
      (silent : x.heard b = []) : Fate b m x [] false
  | lives {added : List KillHandler} {v v' : Vm} (before : m.registry.get? b = some v)
      (after : x.val.2.registry.get? b = some v') (unfaulted : v'.guest.faulted = false)
      (course : v.Course added v') (rites : x.rites b = []) : Fate b m x added false
  | dies {v : Vm} (before : m.registry.get? b = some v)
      (after : x.val.2.registry.get? b = none) (rites : x.rites b = v.rites) : Fate b m x [] true

variable {x : Traced (α × Monitor)} {f : α × Monitor → Traced (β × Monitor)}
  {added added' : List KillHandler} {ends ends' : Bool}

/-- Nothing is added to the teardown of a session before it dies. -/
theorem Fate.bind (hm : Sound config m) (hx : Fate b m x added ends)
    (hf : Fate b x.val.2 (f x.val) added' ends') (hadded : ends' = true → added = []) :
    Fate b m (x >>= f) (added ++ added') (ends || ends') := by
  cases hx with
  | dead before after silent =>
    cases hf with
    | dead _ after' silent' =>
      refine .dead before after' ?_
      rw [heard_bind, silent, silent']
      rfl
    | lives before' | dies before' => cases after.symm.trans before'
  | @lives _ v v' before after unfaulted course rites =>
    cases hf with
    | dead before' => cases after.symm.trans before'
    | lives before' after' unfaulted' course' rites' =>
      obtain rfl := Option.some.inj (after.symm.trans before')
      refine .lives before after' unfaulted' (course.trans course') ?_
      rw [rites_bind, rites, rites']
      rfl
    | dies before' after' rites' =>
      obtain rfl := Option.some.inj (after.symm.trans before')
      obtain rfl := hadded rfl
      refine .dies before after' ?_
      rw [rites_bind, rites, rites', course.rites_eq (hm.swept b v before)]
      rfl
  | dies before after rites =>
    cases hf with
    | dead _ after' silent =>
      refine .dies before after' ?_
      rw [rites_bind, rites, rites_of_silent silent, List.append_nil]
    | lives before' | dies before' => cases after.symm.trans before'

theorem Fate.map (hx : Fate b m x added ends) {g : α × Monitor → β × Monitor}
    (hg : ∀ y, (g y).2 = y.2) : Fate b m (g <$> x) added ends := by
  cases hx with
  | dead before after silent =>
    exact .dead before (by rw [val_map, hg, after]) (by rw [heard_map, silent])
  | lives before after unfaulted course rites =>
    exact .lives before (by rw [val_map, hg, after]) unfaulted course (by rw [rites_map, rites])
  | dies before after rites =>
    exact .dies before (by rw [val_map, hg, after]) (by rw [rites_map, rites])

/-- Nothing is heard of session `b` while `x` runs from `m` on, and nothing happens to it. -/
structure Misses (b : VmId) (m : Monitor) (x : Traced (α × Monitor)) : Prop where
  silent : x.heard b = []
  same : x.val.2.registry.get? b = m.registry.get? b

theorem misses_pure (b : VmId) (m : Monitor) (a : α) : Misses b m (pure (a, m)) := ⟨rfl, rfl⟩

theorem Misses.bind (hx : Misses b m x) (hf : Misses b x.val.2 (f x.val)) :
    Misses b m (x >>= f) where
  silent := by
    rw [heard_bind, hx.silent, hf.silent]
    rfl
  same := hf.same.trans hx.same

theorem Misses.fate (h : Misses b m x) (hm : Settled config m) : Fate b m x [] false := by
  have hget := h.same
  cases before : m.registry.get? b with
  | none =>
    rw [before] at hget
    exact .dead before hget h.silent
  | some v =>
    rw [before] at hget
    exact .lives before hget (hm.unfaulted b v before) (.refl v) (rites_of_silent h.silent)

/-- A live session dies exactly if its fate is to. -/
theorem Fate.ends_iff (hx : Fate b m x added ends) (halive : m.registry.isAlive b = true) :
    x.val.2.registry.isAlive b = false ↔ ends = true := by
  rw [Registry.isAlive] at halive ⊢
  cases hx with
  | dead before => simp [before] at halive
  | lives _ after => simp [after]
  | dies _ after => simp [after]

/-- Who is alive was alive, and has come on its way since. -/
theorem Fate.of_alive (hx : Fate b m x added ends) (after : x.val.2.registry.get? b = some v') :
    ∃ v, m.registry.get? b = some v ∧ v.Course added v' ∧ v'.guest.faulted = false ∧
      x.rites b = [] := by
  cases hx with
  | dead _ hdead | dies _ hdead => cases hdead.symm.trans after
  | lives before hafter unfaulted course rites =>
    obtain rfl := Option.some.inj (hafter.symm.trans after)
    exact ⟨_, before, course, unfaulted, rites⟩

/-- Who was dead stays dead, and nothing is heard or added. -/
theorem Fate.of_dead (hx : Fate b m x added ends) (before : m.registry.get? b = none) :
    x.val.2.registry.get? b = none ∧ x.heard b = [] ∧ added = [] := by
  cases hx with
  | dead _ after silent => exact ⟨after, silent, rfl⟩
  | lives hlive | dies hlive => cases before.symm.trans hlive

/-- Who dies is torn down as it was before. -/
theorem Fate.of_death (hx : Fate b m x added ends) (before : m.registry.get? b = some v)
    (after : x.val.2.registry.get? b = none) : x.rites b = v.rites ∧ added = [] := by
  cases hx with
  | dead hdead => cases before.symm.trans hdead
  | lives _ hafter => cases after.symm.trans hafter
  | dies hlive _ rites =>
    obtain rfl := Option.some.inj (before.symm.trans hlive)
    exact ⟨rites, rfl⟩

/-- A session on which work is done, and which dies if its guest is faulted then. -/
theorem fate_of_work {y : Traced (β × Vm)} {told : β → Bool} (hm : Settled config m)
    (before : m.registry.get? b = some v) (hserves : Serves v y told)
    (hget : x.val.2.registry.get? b = survivor y.val.2)
    (hheard : x.heard b = y.heard b ++ lastWords b y.val.2) :
    Fate b m x [] (x.strays b || told y.val.1) := by
  obtain rfl : v.id = b := hm.named.id_of_get? before
  have hswept : y.val.2.Swept := hserves.keeps.swept (hm.swept _ v before)
  have hstrays : x.strays v.id = y.strays v.id := by
    have hlast : (lastWords v.id y.val.2).any Note.isStray = false := by
      unfold lastWords
      split
      · rw [← hserves.keeps.id]
        exact strays_lastHeard hswept
      · rfl
    rw [strays, hheard, List.any_append, hlast, Bool.or_false, strays]
  have hends : (x.strays v.id || told y.val.1) = y.val.2.guest.faulted := by
    rw [hstrays, hserves.faulted, hm.unfaulted _ v before, Bool.false_or]
  have hrites : x.rites v.id = (lastWords v.id y.val.2).filter Note.isRite := by
    have hwork : y.rites v.id = [] := hserves.notes.no_rites
    rw [rites, hheard, List.filter_append, ← rites, hwork, List.nil_append]
  rw [hends]
  unfold survivor at hget
  unfold lastWords at hrites
  cases hfaulted : y.val.2.guest.faulted with
  | false =>
    rw [hfaulted] at hget hrites
    exact .lives before hget hfaulted hserves.course hrites
  | true =>
    rw [hfaulted] at hget hrites
    refine .dies before hget (hrites.trans ?_)
    rw [if_pos rfl, ← hserves.course.rites_eq (hm.swept _ v before), ← hserves.keeps.id]
    exact rites_lastHeard hswept

/-! ## Pieces of operations -/

/-- A piece of an operation that starts at `m`. -/
structure Passes (config : Config) (m : Monitor) (x : Traced (α × Monitor))
    (added : VmId → List KillHandler) (ends : VmId → Bool) : Prop where
  sound : Sound config x.val.2
  thins : m.registry.Thins x.val.2.registry
  fate : ∀ b, Fate b m x (added b) (ends b)

variable {adds adds' : VmId → List KillHandler} {deaths deaths' : VmId → Bool}

theorem Passes.settled (hm : Settled config m) (h : Passes config m x adds deaths) :
    Settled config x.val.2 where
  toSound := h.sound
  unfaulted b v hv := by
    obtain ⟨_, -, -, unfaulted, -⟩ := (h.fate b).of_alive hv
    exact unfaulted
  routed b v hv := by
    obtain ⟨_, before, course, -, -⟩ := (h.fate b).of_alive hv
    exact course.routed (hm.routed b _ before)
  owned irq id hid := by
    rw [h.thins.irqOwner?] at hid
    obtain ⟨howner, hstays⟩ := Option.filter_eq_some_iff.1 hid
    have halive := hm.owned irq id howner
    rw [Registry.stays, halive] at hstays
    exact hstays

theorem Passes.bind (hm : Sound config m) (hx : Passes config m x adds deaths)
    (hf : Passes config x.val.2 (f x.val) adds' deaths')
    (hadded : ∀ b, deaths' b = true → adds b = []) :
    Passes config m (x >>= f) (fun b => adds b ++ adds' b) (fun b => deaths b || deaths' b) where
  sound := hf.sound
  thins := hx.thins.trans hf.thins
  fate b := (hx.fate b).bind hm (hf.fate b) (hadded b)

theorem Passes.map (hx : Passes config m x adds deaths) {g : α × Monitor → β × Monitor}
    (hg : ∀ y, (g y).2 = y.2) : Passes config m (g <$> x) adds deaths where
  sound := by rw [val_map, hg]; exact hx.sound
  thins := by rw [val_map, hg]; exact hx.thins
  fate b := (hx.fate b).map hg

theorem Passes.congr (hx : Passes config m x adds deaths) (hadds : ∀ b, adds b = adds' b)
    (hdeaths : ∀ b, deaths b = deaths' b) : Passes config m x adds' deaths' := by
  rwa [← funext hadds, ← funext hdeaths]

/-- Nothing happens to any session. -/
theorem passes_idle (hm : Settled config m) (hsound : Sound config x.val.2)
    (hregistry : x.val.2.registry = m.registry) (hsilent : ∀ b, x.heard b = []) :
    Passes config m x (fun _ => []) fun _ => false where
  sound := hsound
  thins := by rw [hregistry]; exact .refl _
  fate b := Misses.fate ⟨hsilent b, by rw [hregistry]⟩ hm

theorem passes_pure (hm : Settled config m) (a : α) :
    Passes config m (pure (a, m)) (fun _ => []) fun _ => false :=
  passes_idle hm hm.toSound rfl fun _ => rfl

/-- A session is put back, with steps added to its teardown. -/
theorem passes_put (hm : Settled config m) (hsound : Sound config x.val.2)
    (live : m.registry.get? c = some v) (hregistry : x.val.2.registry = m.registry.set c v')
    (hsilent : ∀ b, x.heard b = []) (hcourse : v.Course added v') (hguest : v'.guest = v.guest) :
    Passes config m x (fun b => if b = c then added else []) fun _ => false where
  sound := hsound
  thins := by rw [hregistry]; exact Registry.thins_set live v'
  fate b := by
    have hget : x.val.2.registry.get? b = if b = c then some v' else m.registry.get? b := by
      rw [hregistry, Registry.get?_set live]
    split
    next hb =>
      subst hb
      rw [if_pos rfl] at hget
      have hfaulted : v'.guest.faulted = false := by rw [hguest, hm.unfaulted _ v live]
      exact .lives live hget hfaulted hcourse (rites_of_silent (hsilent b))
    next hb =>
      rw [if_neg hb] at hget
      exact Misses.fate ⟨hsilent b, hget⟩ hm

theorem after_withVm {g : Vm → Traced (Except MonitorError α × Vm)} (hm : Sound config m)
    (live : m.registry.get? c = some v) (hkeeps : v.Keeps (g v).val.2) :
    Sound config (m.withVm c g).val.2 ∧ m.registry.Thins (m.withVm c g).val.2.registry := by
  let put : Monitor := { m with registry := m.registry.set c (g v).val.2 }
  have hput : Sound config put := hm.step (.work live hkeeps)
  have hthins : m.registry.Thins put.registry := Registry.thins_set live _
  simp only [withVm, live, val_bind]
  split
  · have hlive : put.registry.get? c = some (g v).val.2 := by
      rw [Registry.get?_set live, if_pos rfl]
    exact ⟨hput.step (.bury hlive), hthins.trans (put.thins_bury c)⟩
  · exact ⟨hput, hthins⟩

/-- Of another session nothing is heard at work on session `c`. -/
theorem heard_withVm_other {g : Vm → Traced (Except MonitorError α × Vm)} (hm : Sound config m)
    (hnotes : ∀ v, v.id = c → (g v).val.2.id = v.id ∧ (g v).Only (Note.AtWork v.id)) (hb : b ≠ c) :
    (m.withVm c g).heard b = [] := by
  cases live : m.registry.get? c with
  | none => rw [withVm_dead live, heard_pure]
  | some v =>
    have hid := hm.named.id_of_get? live
    have hother : v.id ≠ b := fun heq => hb (heq.symm.trans hid)
    obtain ⟨hsame, hwork⟩ := hnotes v hid
    rw [heard_withVm live, hwork.ofVm.heard_other hother, lastWords_other, List.append_nil]
    rwa [hsame]

theorem misses_withVm {g : Vm → Traced (Except MonitorError α × Vm)}
    {told : Except MonitorError α → Bool} (hm : Sound config m)
    (hserves : ∀ v, v.id = c → Serves v (g v) told) (hb : b ≠ c) : Misses b m (m.withVm c g) where
  silent :=
    heard_withVm_other hm (fun v hid => ⟨(hserves v hid).keeps.id, (hserves v hid).notes⟩) hb
  same := by rw [get?_withVm, if_neg hb]

/-- **Work on a session** ends it exactly if something stray is told of it. -/
theorem passes_withVm {g : Vm → Traced (Except MonitorError α × Vm)}
    {told : Except MonitorError α → Bool} (hm : Settled config m)
    (hdead : told (.error (.noSuchVm c)) = false) (hserves : ∀ v, v.id = c → Serves v (g v) told) :
    Passes config m (m.withVm c g) (fun _ => [])
      fun b => (m.withVm c g).strays b || (b = c && told (m.withVm c g).val.1) := by
  cases live : m.registry.get? c with
  | none =>
    rw [withVm_dead live]
    refine (passes_pure hm _).congr (fun _ => rfl) fun b => ?_
    rw [strays_pure, val_pure, hdead, Bool.and_false]
    rfl
  | some v =>
    have hwork := hserves v (hm.named.id_of_get? live)
    obtain ⟨hsound, hthins⟩ := after_withVm hm.toSound live hwork.keeps
    refine ⟨hsound, hthins, fun b => ?_⟩
    by_cases hb : b = c
    · subst hb
      have hget := m.get?_withVm b b g
      rw [if_pos rfl, live] at hget
      have hfate := fate_of_work hm live hwork hget (heard_withVm live b)
      rw [reply_withVm live]
      simpa using hfate
    · have hmisses := misses_withVm hm.toSound hserves hb
      rw [strays_of_silent hmisses.silent, decide_eq_false hb]
      exact hmisses.fate hm

theorem serves_tick (v : Vm) (k : Clock) :
    Serves v ((fun v => ((), v)) <$> v.tick k) fun _ => false where
  keeps := v.keeps_tick k
  course := (v.keeps_tick k).course (v.fittings_tick k)
  notes := .bind (v.notes_tick k) (only_pure _)
  faulted := by
    rw [strays_map, Bool.or_false]
    exact v.reports_tick k

/-- **A tick** ends the sessions of which something stray is told. -/
theorem passes_timerTick (hm : Settled config m) (n : UInt32) :
    Passes config m (m.perform (.timerTick n)) (fun _ => [])
      fun b => (m.perform (.timerTick n)).strays b where
  sound := sound_timerTick hm.toSound n
  thins := m.thins_timerTick n
  fate b := by
    have hheard : (m.perform (.timerTick n)).heard b = (m.timerTick n).heard b := by
      simp [perform]
    have hget : (m.perform (.timerTick n)).val.2.registry.get? b = _ :=
      get?_timerTick hm.toSound n b
    rw [(timerTick_eq hm.toSound n b).2] at hheard
    cases before : m.registry.get? b with
    | none =>
      rw [before] at hheard hget
      rw [strays_of_silent hheard]
      exact .dead before hget hheard
    | some v =>
      rw [before] at hheard hget
      have hfate := fate_of_work (x := m.perform (.timerTick n)) hm before
        (serves_tick v (m.clock.advance n)) hget (by simpa [ticked] using hheard)
      simpa using hfate

end RealModeMonitor.Monitor
