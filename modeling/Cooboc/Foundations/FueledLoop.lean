import Mathlib.Data.Option.Basic

/-! Loops that need not end: a loop is a step that continues with a new state or leaves, and
runs for as many iterations as it has fuel.
-/

namespace Cooboc.Foundations

variable {σ : Type*}

/-- The state in which the loop leaves, if it does within so many iterations. -/
def runLoop (step : σ → Option σ) : Nat → σ → Option σ
  | 0, _ => none
  | fuel + 1, state =>
      match step state with
      | none => some state
      | some next => runLoop step fuel next

/-- The state after so many iterations, if the loop has not left by then. -/
def iterations (step : σ → Option σ) : Nat → σ → Option σ
  | 0, state => some state
  | count + 1, state => (iterations step count state).bind step

/-- A loop that continues from every state of an invariant, and keeps it, never leaves.
Witness: induction over the fuel.
-/
theorem runLoop_eq_none {step : σ → Option σ} (invariant : σ → Prop)
    (continues : ∀ state, invariant state → ∃ next, step state = some next ∧ invariant next)
    {state : σ} (initial : invariant state) (fuel : Nat)
    : runLoop step fuel state = none := by
  induction fuel generalizing state with
  | zero => rfl
  | succ fuel ih =>
      obtain ⟨next, step_eq, kept⟩ := continues state initial
      rw [runLoop, step_eq]
      exact ih kept

/-- An invariant that counts the iterations holds after so many of them. Witness: induction
over their number.
-/
theorem iterations_invariant {step : σ → Option σ} (invariant : Nat → σ → Prop)
    (continues
      : ∀ count state,
          invariant count state → ∃ next, step state = some next ∧ invariant (count + 1) next)
    {state : σ} (initial : invariant 0 state) (count : Nat)
    : ∃ reached, iterations step count state = some reached ∧ invariant count reached := by
  induction count with
  | zero => exact ⟨state, rfl, initial⟩
  | succ count ih =>
      obtain ⟨reached, reached_eq, kept⟩ := ih
      obtain ⟨next, step_eq, later⟩ := continues count reached kept
      refine ⟨next, ?_, later⟩
      rw [iterations, reached_eq, Option.bind_some, step_eq]

end Cooboc.Foundations
