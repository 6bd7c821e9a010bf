import Mathlib.Algebra.GroupWithZero.Nat

/-!
# Sums in words of fixed width

Words of fixed width stand for the natural numbers below some size.  Their
addition wraps around, or fails where the sum does not fit.  Both give the sum
of a list exactly when that is below the size.
-/

/-- Words with the numbers that they stand for, and an addition that wraps
around. -/
structure FixedWidth (Word : Type*) where
  zero : Word
  add : Word → Word → Word
  toNat : Word → Nat
  size : Nat
  toNat_lt : ∀ word, toNat word < size
  toNat_zero : toNat zero = 0
  toNat_add : ∀ first second, toNat (add first second) = (toNat first + toNat second) % size

namespace FixedWidth

variable {Word : Type*} (width : FixedWidth Word) (values : List Word)

def wrappingSum : Word :=
  values.foldl width.add width.zero

/-- The sum, or `none` if adding up from the left leaves the range. -/
def checkedSum : Option Word :=
  values.foldlM
    (fun sum value =>
      if width.toNat sum + width.toNat value < width.size then some (width.add sum value)
      else none)
    width.zero

def total : Nat :=
  (values.map width.toNat).sum

@[simp]
theorem total_cons (value : Word) :
    width.total (value :: values) = width.toNat value + width.total values :=
  List.sum_cons

theorem toNat_foldl (sum : Word) :
    width.toNat (values.foldl width.add sum) =
      (width.toNat sum + width.total values) % width.size := by
  induction values generalizing sum with
  | nil => exact (Nat.mod_eq_of_lt (width.toNat_lt sum)).symm
  | cons value rest induction =>
      rw [List.foldl_cons, induction, width.toNat_add, total_cons, Nat.mod_add_mod,
        Nat.add_assoc]

theorem toNat_wrappingSum :
    width.toNat (width.wrappingSum values) = width.total values % width.size := by
  rw [wrappingSum, toNat_foldl, width.toNat_zero, Nat.zero_add]

theorem toNat_wrappingSum_eq_iff :
    width.toNat (width.wrappingSum values) = width.total values ↔
      width.total values < width.size := by
  rw [toNat_wrappingSum]
  constructor
  · intro exact
    have positive : 0 < width.size :=
      Nat.lt_of_le_of_lt (Nat.zero_le _) (width.toNat_lt width.zero)
    rw [← exact]
    exact Nat.mod_lt _ positive
  · exact Nat.mod_eq_of_lt

theorem foldlM_eq_some_iff (sum : Word) :
    values.foldlM
        (fun sum value =>
          if width.toNat sum + width.toNat value < width.size then some (width.add sum value)
          else none)
        sum = some (values.foldl width.add sum) ↔
      width.toNat sum + width.total values < width.size := by
  induction values generalizing sum with
  | nil => exact iff_of_true rfl (width.toNat_lt sum)
  | cons value rest induction =>
      rw [List.foldlM_cons, List.foldl_cons, total_cons, ← Nat.add_assoc]
      by_cases fits : width.toNat sum + width.toNat value < width.size
      · have next : width.toNat (width.add sum value) =
            width.toNat sum + width.toNat value := by
          rw [width.toNat_add, Nat.mod_eq_of_lt fits]
        rw [if_pos fits, ← next]
        exact induction (width.add sum value)
      · have exceeds :
            ¬ width.toNat sum + width.toNat value + width.total rest < width.size := by
          omega
        rw [if_neg fits]
        exact iff_of_false (fun impossible => by cases impossible) exceeds

/-- A checked sum succeeds as long as it fits, with the same word. -/
theorem checkedSum_eq_some_iff :
    width.checkedSum values = some (width.wrappingSum values) ↔
      width.total values < width.size := by
  rw [checkedSum, wrappingSum, foldlM_eq_some_iff, width.toNat_zero, Nat.zero_add]

end FixedWidth
