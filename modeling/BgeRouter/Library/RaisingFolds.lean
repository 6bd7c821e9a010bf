import Mathlib.Order.Basic

/-!
# Folds whose steps raise a rank

Each step of the fold either leaves the state as it is or raises its rank.
Since no later step lowers the rank again, such a fold has its first rank at the
end only if none of its steps has any effect.
-/

namespace RaisingFolds

variable {State Action Rank : Type*} [Preorder Rank] {step : State → Action → State}
  {rank : State → Rank}

def Raises (step : State → Action → State) (rank : State → Rank) : Prop :=
  ∀ state action, step state action = state ∨ rank state < rank (step state action)

theorem Raises.le_step (raises : Raises step rank) (state : State) (action : Action) :
    rank state ≤ rank (step state action) := by
  rcases raises state action with idle | raised
  · rw [idle]
  · exact raised.le

theorem Raises.le_foldl (raises : Raises step rank) (actions : List Action)
    (state : State) : rank state ≤ rank (actions.foldl step state) := by
  induction actions generalizing state with
  | nil => exact le_refl _
  | cons action later ih => exact (raises.le_step state action).trans (ih _)

/-- An effective step shows in the rank of every later state. -/
theorem Raises.lt_foldl (raises : Raises step rank) {action : Action} {state : State}
    (effective : step state action ≠ state) (later : List Action) :
    rank state < rank (later.foldl step (step state action)) := by
  have raised := (raises state action).resolve_left effective
  exact raised.trans_le (raises.le_foldl later _)

/-- The rank at the end is the first one only if every step is idle. -/
theorem Raises.idle_of_rank_foldl (raises : Raises step rank) {actions : List Action}
    {state : State} (kept : ¬ rank state < rank (actions.foldl step state)) :
    ∀ action ∈ actions, step state action = state := by
  induction actions with
  | nil => simp
  | cons action later ih =>
      rw [List.foldl_cons] at kept
      have headIdle : step state action = state := by
        by_contra effective
        exact kept (raises.lt_foldl effective later)
      rw [headIdle] at kept
      intro other member
      rcases List.mem_cons.mp member with rfl | inLater
      · exact headIdle
      · exact ih kept other inLater

theorem foldl_of_idle {actions : List Action} {state : State}
    (idle : ∀ action ∈ actions, step state action = state) :
    actions.foldl step state = state := by
  induction actions with
  | nil => rfl
  | cons action later ih =>
      rw [List.foldl_cons, idle action List.mem_cons_self]
      exact ih fun other member => idle other (List.mem_cons_of_mem _ member)

end RaisingFolds
