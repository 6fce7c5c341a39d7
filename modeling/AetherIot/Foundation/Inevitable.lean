import Mathlib

/-!
# Inevitable states

A goal is inevitable from a state when every maximal sequence of steps from it meets the goal: the
goal holds there, or some step is possible and the goal is inevitable after each one.
-/

/-- Every maximal sequence of steps from the state meets the goal. -/
inductive Inevitable {σ : Type} (step : σ → σ → Prop) (goal : σ → Prop) : σ → Prop
  | now {state : σ} (reached : goal state) : Inevitable step goal state
  | later {state : σ} (possible : ∃ next, step state next)
      (every : ∀ next, step state next → Inevitable step goal next) : Inevitable step goal state

namespace Inevitable

variable {σ : Type} {step : σ → σ → Prop} {goal : σ → Prop} {state : σ}

theorem of_measure {invariant : σ → Prop} (measure : σ → Nat)
    (possible : ∀ state, invariant state → ¬ goal state → ∃ next, step state next)
    (decreases : ∀ state next, invariant state → ¬ goal state → step state next →
      invariant next ∧ measure next < measure state) (holds : invariant state) :
    Inevitable step goal state := by
  induction bound : measure state using Nat.strong_induction_on generalizing state with
  | _ _ ih =>
    by_cases reached : goal state
    · exact now reached
    · refine later (possible state holds reached) fun next taken => ?_
      obtain ⟨holdsNext, below⟩ := decreases state next holds reached taken
      exact ih (measure next) (bound ▸ below) holdsNext rfl

theorem not_of_kept {kept : σ → Prop} (outside : ∀ state, kept state → ¬ goal state)
    (stays : ∀ state, kept state → (∃ next, step state next) → ∃ next, step state next ∧ kept next)
    (holds : kept state) : ¬ Inevitable step goal state := by
  intro inevitable
  induction inevitable with
  | now reached => exact outside _ holds reached
  | later possible _ ih =>
    obtain ⟨next, taken, keptNext⟩ := stays _ holds possible
    exact ih next taken keptNext

end Inevitable
