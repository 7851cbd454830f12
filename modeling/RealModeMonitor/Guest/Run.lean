import RealModeMonitor.Trace.Traced

/-!
# Interrupts and actions with their trace

An interrupt that a guest takes is told to the operator. Apart from that, `inject` is `interrupt`
and `act` is `perform`.
-/

namespace RealModeMonitor.Guest

/-- Take the guest through its vector table and tell where it goes. -/
def inject (g : Guest) (vector : UInt8) : Traced (Except InjectError Unit × Guest) := do
  let (r, g) := g.interrupt vector
  if r.isOk then
    Traced.tell (.interruptInjected vector ⟨g.frame.cs, g.frame.ip⟩)
  return (r, g)

@[simp] theorem val_inject (g : Guest) (vector : UInt8) :
    (g.inject vector).val = g.interrupt vector := by
  unfold inject
  rcases g.interrupt vector with ⟨_ | _, g'⟩ <;> rfl

def act (g : Guest) : Action → Traced (Reply × Guest)
  | .interrupt vector => do
    let (r, g) ← g.inject vector
    return match r with
      | .ok () => (.done, g)
      | .error e => (.interruptFailed e, g)
  | a => pure (g.perform a)

@[simp] theorem val_act (g : Guest) (a : Action) : (g.act a).val = g.perform a := by
  cases a <;> try rfl
  simp only [act, Traced.val_bind, val_inject, perform]
  rcases g.interrupt _ with ⟨_ | _, g'⟩ <;> rfl

/-- Do the actions in order. -/
def run (g : Guest) : List Action → Traced (List Reply × Guest)
  | [] => pure ([], g)
  | a :: rest => do
    let (r, g) ← g.act a
    let (rs, g) ← g.run rest
    return (r :: rs, g)

end RealModeMonitor.Guest
