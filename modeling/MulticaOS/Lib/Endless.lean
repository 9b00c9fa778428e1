import Mathlib.Tactic.Common

/-!
Endless runs of a step function, and what comes about in them because a rank keeps falling.
-/

namespace EndlessLib

section States

variable {State Action : Type} {step : State → Action → State} {start : State} {actions : Nat → Action}

def states (step : State → Action → State) (start : State) (actions : Nat → Action) : Nat → State
  | 0 => start
  | time + 1 => step (states step start actions time) (actions time)

theorem states_invariant {invariant : State → Prop} (initial : invariant start)
    (preserved : ∀ state action, invariant state → invariant (step state action)) (time : Nat) :
    invariant (states step start actions time) := by
  induction time with
  | zero => exact initial
  | succ time ih => exact preserved _ _ ih

end States

theorem leaves {holds : Nat → Prop} {first last : Nat} (order : first ≤ last) (begins : holds first)
    (ends : ¬holds last) :
    ∃ time, first ≤ time ∧ (∀ earlier, first ≤ earlier → earlier ≤ time → holds earlier) ∧
      ¬holds (time + 1) := by
  obtain ⟨steps, rfl⟩ := Nat.exists_eq_add_of_le order
  clear order
  induction steps generalizing first with
  | zero => exact absurd begins ends
  | succ steps ih =>
      by_cases next : holds (first + 1)
      · rw [Nat.add_succ, ← Nat.succ_add] at ends
        obtain ⟨time, order, through, left⟩ := ih next ends
        refine ⟨time, by omega, fun earlier after upTo => ?_, left⟩
        rcases Nat.eq_or_lt_of_le after with rfl | later
        · exact begins
        · exact through earlier later upTo
      · refine ⟨first, Nat.le_refl first, fun earlier after before => ?_, next⟩
        rw [Nat.le_antisymm before after]
        exact begins

theorem eventually_of_falls {goal : Nat → Prop} {standing : Nat → Nat → Prop}
    (falls : ∀ time rank, standing time rank →
      ∃ later, time ≤ later ∧ (goal later ∨ ∃ lower, lower < rank ∧ standing later lower))
    {time rank : Nat} (stands : standing time rank) : ∃ later, time ≤ later ∧ goal later := by
  induction rank using Nat.strongRecOn generalizing time with
  | ind rank ih =>
      obtain ⟨later, order, reached | ⟨lower, below, still⟩⟩ := falls time rank stands
      · exact ⟨later, order, reached⟩
      · obtain ⟨last, further, reached⟩ := ih lower below still
        exact ⟨last, Nat.le_trans order further, reached⟩

end EndlessLib
