import Mathlib.Data.Option.Basic

namespace PermeantOS

section Runs

variable {σ ε : Type} {step : σ → ε → Option σ} {Inv : σ → Prop}

/-- What holds where a run starts and is kept by every step that can be taken holds where the run ends. -/
theorem foldlM_invariant (hstep : ∀ s e s', Inv s → step s e = some s' → Inv s') {events : List ε} {s s' : σ}
    (hs : Inv s) (hrun : events.foldlM step s = some s') : Inv s' := by
  induction events generalizing s with
  | nil =>
    cases hrun
    exact hs
  | cons e events ih =>
    rw [List.foldlM_cons, Option.bind_eq_bind] at hrun
    obtain ⟨mid, hmid, hrun⟩ := Option.bind_eq_some_iff.mp hrun
    exact ih (hstep _ _ _ hs hmid) hrun

end Runs

end PermeantOS
