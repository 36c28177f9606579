import Camellia.Transition
import Mathlib.Order.WellFounded

/-!
# What a system comes to

A goal is inevitable from a state when the allowed actions lead to it whatever order
they are taken in: they cannot go on for ever without it, and before it there is always
one that is enabled.  The rule is a rank that every allowed action lowers.
-/

namespace Camellia.Transition

variable {σ α : Type*}

inductive Inevitable (step : σ → α → Option σ) (C : σ → α → Prop) (goal : σ → Prop) :
    σ → Prop
  | reached {state : σ} (hgoal : goal state) : Inevitable step C goal state
  | ahead {state : σ}
      (hsome : ∃ action next, C state action ∧ step state action = some next)
      (hevery : ∀ action next, C state action → step state action = some next →
        Inevitable step C goal next) : Inevitable step C goal state

/-- What the allowed actions keep, a rank that they lower, and one of them wherever the goal
is not yet reached. -/
theorem Inevitable.of_rank {step : σ → α → Option σ} {C : σ → α → Prop}
    {P goal : σ → Prop} {β : Type*} [Preorder β] [WellFoundedLT β] (rank : σ → β)
    (hkeep : ∀ state action next, P state → C state action →
      step state action = some next → P next)
    (hlower : ∀ state action next, P state → C state action →
      step state action = some next → rank next < rank state)
    (hmove : ∀ state, P state → ¬ goal state →
      ∃ action next, C state action ∧ step state action = some next)
    (state : σ) (hstate : P state) : Inevitable step C goal state := by
  induction hrank : rank state using WellFoundedLT.induction generalizing state with
  | ind bound ih =>
      subst bound
      by_cases hgoal : goal state
      · exact .reached hgoal
      · refine .ahead (hmove state hstate hgoal) ?_
        intro action next hallowed hstep
        have hnext : P next := hkeep state action next hstate hallowed hstep
        exact ih (rank next) (hlower state action next hstate hallowed hstep) next hnext rfl

theorem not_inevitable {step : σ → α → Option σ} {C : σ → α → Prop} {P goal : σ → Prop}
    (hgoal : ∀ state, P state → ¬ goal state)
    (hstay : ∀ state, P state →
      (∃ action next, C state action ∧ step state action = some next ∧ P next) ∨
        ∀ action next, C state action → step state action = some next → P next)
    {state : σ} (hstate : P state) : ¬ Inevitable step C goal state := by
  intro hinevitable
  induction hinevitable with
  | reached hreached => exact hgoal _ hstate hreached
  | @ahead state hsome _ ih =>
      rcases hstay state hstate with ⟨action, next, hallowed, hstep, hnext⟩ | hall
      · exact ih action next hallowed hstep hnext
      · obtain ⟨action, next, hallowed, hstep⟩ := hsome
        exact ih action next hallowed hstep (hall action next hallowed hstep)

end Camellia.Transition
