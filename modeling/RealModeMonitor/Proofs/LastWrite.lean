/-!
# What was written last

A step writes a register or leaves it: `f a` is what step `a` writes there, if it does. Then the
register holds what was written last (`register_foldl`). The steps may change other things too, so
the register is given as a view `g` of the state.
-/

namespace RealModeMonitor

variable {σ α β : Type}

/-- One step more in front is one more value that may stand. -/
theorem getLastD_filterMap_cons (f : α → Option β) (a : α) (l : List α) (v : β) :
    ((a :: l).filterMap f).getLastD v = (l.filterMap f).getLastD ((f a).getD v) := by
  cases h : f a with
  | none => rw [List.filterMap_cons_none h, Option.getD_none]
  | some w => rw [List.filterMap_cons_some h, List.getLastD_cons, Option.getD_some]

theorem register_foldl {step : σ → α → σ} {g : σ → β} {f : α → Option β}
    (h : ∀ s a, g (step s a) = (f a).getD (g s)) (s : σ) (l : List α) :
    g (l.foldl step s) = (l.filterMap f).getLastD (g s) := by
  induction l generalizing s with
  | nil => rfl
  | cons a l ih => rw [List.foldl_cons, ih, h, getLastD_filterMap_cons]

end RealModeMonitor
