import RealModeMonitor.Trace.Diagnostic
import RealModeMonitor.Trace.Event

/-!
# Values with a trace

An operation of the monitor gives a value, the new state among it, and **notes**: the diagnostics
and events of its run, in order. `Traced` pairs the two. Notes are only ever added, never read, so
that the value of an operation does not depend on them: `val_bind` takes them out of any
composition.
-/

namespace RealModeMonitor

inductive Note where
  | diagnostic (d : Diagnostic)
  | event (e : Event)

structure Traced (α : Type) where
  val : α
  notes : Array Note := #[]

namespace Traced

instance : Monad Traced where
  pure a := ⟨a, #[]⟩
  bind x f :=
    let y := f x.val
    ⟨y.val, x.notes ++ y.notes⟩

@[simp] theorem val_pure {α : Type} (a : α) : (pure a : Traced α).val = a := rfl

@[simp] theorem notes_pure {α : Type} (a : α) : (pure a : Traced α).notes = #[] := rfl

@[simp] theorem val_bind {α β : Type} (x : Traced α) (f : α → Traced β) :
    (x >>= f).val = (f x.val).val := rfl

@[simp] theorem notes_bind {α β : Type} (x : Traced α) (f : α → Traced β) :
    (x >>= f).notes = x.notes ++ (f x.val).notes := rfl

@[simp] theorem val_map {α β : Type} (f : α → β) (x : Traced α) : (f <$> x).val = f x.val := rfl

@[simp] theorem notes_map {α β : Type} (f : α → β) (x : Traced α) : (f <$> x).notes = x.notes :=
  Array.append_empty

instance : LawfulMonad Traced := LawfulMonad.mk' Traced
  (fun x => by cases x; simp [Functor.map])
  (fun a f => by simp [bind, pure])
  (fun x f g => by simp [bind, Array.append_assoc])

/-- A computation is continued from its value. -/
theorem bind_congr_val {α β : Type} {x : Traced α} {f g : α → Traced β}
    (h : f x.val = g x.val) : x >>= f = x >>= g := by
  show (⟨(f x.val).val, x.notes ++ (f x.val).notes⟩ : Traced β) = _
  rw [h]
  rfl

/-- Tell the operator. -/
def tell (d : Diagnostic) : Traced Unit := ⟨(), #[.diagnostic d]⟩

/-- Record a call out of the monitor. -/
def record (e : Event) : Traced Unit := ⟨(), #[.event e]⟩

/-- Run `step` on a state `n` times. -/
def times {σ : Type} (step : σ → Traced σ) : Nat → Traced σ → Traced σ
  | 0, x => x
  | n + 1, x => times step n (x >>= step)

def diagnostics {α : Type} (x : Traced α) : List Diagnostic :=
  x.notes.toList.filterMap fun
    | .diagnostic d => some d
    | .event _ => none

def events {α : Type} (x : Traced α) : List Event :=
  x.notes.toList.filterMap fun
    | .diagnostic _ => none
    | .event e => some e

@[simp] theorem events_pure {α : Type} (a : α) : (pure a : Traced α).events = [] := rfl

/-- Calls out of the monitor happen in the order in which operations are composed. -/
@[simp] theorem events_bind {α β : Type} (x : Traced α) (f : α → Traced β) :
    (x >>= f).events = x.events ++ (f x.val).events := by
  simp [events]

@[simp] theorem events_map {α β : Type} (f : α → β) (x : Traced α) :
    (f <$> x).events = x.events := by
  simp [events]

@[simp] theorem events_tell (d : Diagnostic) : (tell d).events = [] := rfl

@[simp] theorem events_record (e : Event) : (record e).events = [e] := rfl

end Traced
end RealModeMonitor
