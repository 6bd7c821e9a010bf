import Mathlib.Data.List.Find
import Mathlib.Data.List.Nodup

/-!
# Lists searched by a key

A list is searched for the first value that has a key.  When the keys of the
list are pairwise distinct, the search finds the one value there is, whatever
the order of the list.
-/

namespace KeyedLists

variable {Value Key : Type*} [DecidableEq Key] {keyOf : Value → Key}
  {values reordered : List Value} {value : Value} {key : Key}

theorem key_of_find? (found : values.find? (fun value => decide (keyOf value = key)) = some value) :
    keyOf value = key := by
  simpa using List.find?_some found

theorem find?_eq_none_iff :
    values.find? (fun value => decide (keyOf value = key)) = none ↔
      ∀ value ∈ values, keyOf value ≠ key := by
  simp

theorem find?_of_mem (distinct : (values.map keyOf).Nodup) (member : value ∈ values)
    (same : keyOf value = key) :
    values.find? (fun value => decide (keyOf value = key)) = some value := by
  cases found : values.find? fun value => decide (keyOf value = key) with
  | none => exact absurd same (find?_eq_none_iff.mp found value member)
  | some other =>
      have otherMember : other ∈ values := List.mem_of_find?_eq_some found
      have sameKey : keyOf other = keyOf value := (key_of_find? found).trans same.symm
      rw [List.inj_on_of_nodup_map distinct otherMember member sameKey]

/-- With distinct keys a search does not depend on the order. -/
theorem find?_of_perm (reorders : reordered.Perm values)
    (distinct : (values.map keyOf).Nodup) :
    reordered.find? (fun value => decide (keyOf value = key)) =
      values.find? fun value => decide (keyOf value = key) := by
  apply (List.find?_eq_find?_of_perm reorders.symm _).symm
  rintro first ⟨firstMember, firstSame⟩ second ⟨secondMember, secondSame⟩
  apply List.inj_on_of_nodup_map distinct firstMember secondMember
  exact (of_decide_eq_true firstSame).trans (of_decide_eq_true secondSame).symm

end KeyedLists
