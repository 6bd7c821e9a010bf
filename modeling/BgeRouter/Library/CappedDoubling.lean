import Mathlib.Order.Monotone.Basic

/-!
# Capped doubling

A quantity that starts from an initial value, doubles at every step and stops
at a cap.  The doubling may saturate anywhere above the cap.
-/

namespace CappedDoubling

/-- The quantity after a number of steps. -/
def value (initial cap steps : Nat) : Nat :=
  min (initial * Nat.pow 2 steps) cap

variable {initial cap ceiling : Nat} (steps : Nat)

theorem value_zero : value initial cap 0 = min initial cap := by
  have once : initial * Nat.pow 2 0 = initial := Nat.mul_one initial
  rw [value, once]

theorem value_le_cap : value initial cap steps ≤ cap :=
  Nat.min_le_right _ cap

private theorem min_double (product : Nat) (inRange : cap ≤ ceiling) :
    min (min (min product cap * 2) ceiling) cap = min (product * 2) cap := by
  omega

/-- One step doubles the value; saturation is not seen below the cap. -/
theorem value_succ (inRange : cap ≤ ceiling) :
    value initial cap (steps + 1) = min (min (value initial cap steps * 2) ceiling) cap := by
  have doubled : initial * Nat.pow 2 (steps + 1) = initial * Nat.pow 2 steps * 2 :=
    (Nat.mul_assoc _ _ _).symm
  rw [value, value, doubled]
  exact (min_double _ inRange).symm

theorem value_le_succ : value initial cap steps ≤ value initial cap (steps + 1) := by
  have bounded : value initial cap steps ≤ cap := value_le_cap steps
  rw [value_succ steps (Nat.le_refl cap)]
  omega

theorem value_monotone : Monotone (value initial cap) :=
  monotone_nat_of_le_succ value_le_succ

theorem value_zero_le : min initial cap ≤ value initial cap steps := by
  rw [← value_zero]
  exact value_monotone (Nat.zero_le steps)

end CappedDoubling
