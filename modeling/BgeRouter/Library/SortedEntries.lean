import Mathlib.Data.List.Find
import Mathlib.Order.Defs.LinearOrder

/-!
# Maps kept as sorted entries

A map whose keys have a linear order is the list of its entries in ascending
order of keys.  An insertion replaces the value that a key has.
-/

/-- Entries in ascending order, each key at most once. -/
structure SortedEntries (Key Value : Type*) [LinearOrder Key] where
  entries : List (Key × Value)
  ascending : entries.Pairwise fun first second => first.1 < second.1

namespace SortedEntries

variable {Key Value : Type*} [LinearOrder Key]

def empty : SortedEntries Key Value := ⟨[], List.Pairwise.nil⟩

def insertEntry (key : Key) (value : Value) : List (Key × Value) → List (Key × Value)
  | [] => [(key, value)]
  | entry :: rest =>
      if key < entry.1 then (key, value) :: entry :: rest
      else if key = entry.1 then (key, value) :: rest
      else entry :: insertEntry key value rest

section Insertion

variable {key : Key} {value : Value} {entries : List (Key × Value)} {entry : Key × Value}

theorem mem_of_mem_insertEntry (member : entry ∈ insertEntry key value entries) :
    entry = (key, value) ∨ entry ∈ entries := by
  induction entries with
  | nil => exact Or.inl (List.mem_singleton.mp member)
  | cons head rest ih =>
      rw [insertEntry] at member
      split_ifs at member
      · exact List.mem_cons.mp member
      · exact (List.mem_cons.mp member).imp id (List.mem_cons_of_mem _)
      · rcases List.mem_cons.mp member with rfl | later
        · exact Or.inr List.mem_cons_self
        · exact (ih later).imp id (List.mem_cons_of_mem _)

theorem ascending_insertEntry
    (ascending : entries.Pairwise fun first second => first.1 < second.1) :
    (insertEntry key value entries).Pairwise fun first second => first.1 < second.1 := by
  induction entries with
  | nil => exact List.pairwise_singleton _ _
  | cons head rest ih =>
      obtain ⟨below, restAscending⟩ := List.pairwise_cons.mp ascending
      rw [insertEntry]
      split_ifs with less same
      · refine List.pairwise_cons.mpr ⟨fun other member => ?_, ascending⟩
        rcases List.mem_cons.mp member with rfl | later
        · exact less
        · exact less.trans (below other later)
      · refine List.pairwise_cons.mpr ⟨fun other member => ?_, restAscending⟩
        exact same ▸ below other member
      · refine List.pairwise_cons.mpr ⟨fun other member => ?_, ih restAscending⟩
        rcases mem_of_mem_insertEntry member with rfl | later
        · exact lt_of_le_of_ne (not_lt.mp less) (Ne.symm same)
        · exact below other later

end Insertion

def insert (map : SortedEntries Key Value) (key : Key) (value : Value) :
    SortedEntries Key Value :=
  ⟨insertEntry key value map.entries, ascending_insertEntry map.ascending⟩

def get? (map : SortedEntries Key Value) (key : Key) : Option Value :=
  (map.entries.find? fun entry => decide (entry.1 = key)).map Prod.snd

section Lookup

variable {map : SortedEntries Key Value} {key other : Key} {value : Value}

theorem get?_empty : (empty : SortedEntries Key Value).get? key = none :=
  rfl

theorem find?_insertEntry_self {entries : List (Key × Value)} :
    (insertEntry key value entries).find? (fun entry => decide (entry.1 = key)) =
      some (key, value) := by
  induction entries with
  | nil => simp [insertEntry]
  | cons head rest ih =>
      rw [insertEntry]
      split_ifs with less same
      · simp
      · simp
      · rw [List.find?_cons_of_neg (by simpa using Ne.symm same), ih]

theorem find?_insertEntry_of_ne {entries : List (Key × Value)} (ne : other ≠ key) :
    (insertEntry key value entries).find? (fun entry => decide (entry.1 = other)) =
      entries.find? fun entry => decide (entry.1 = other) := by
  induction entries with
  | nil => simp [insertEntry, ne.symm]
  | cons head rest ih =>
      rw [insertEntry]
      split_ifs with less same
      · exact List.find?_cons_of_neg (by simpa using ne.symm)
      · rw [List.find?_cons_of_neg (by simpa using ne.symm),
          List.find?_cons_of_neg (by simpa [← same] using ne.symm)]
      · rw [List.find?_cons, List.find?_cons, ih]

theorem get?_insert (map : SortedEntries Key Value) (key other : Key) (value : Value) :
    (map.insert key value).get? other = if other = key then some value else map.get? other := by
  split_ifs with same
  · subst same
    exact congrArg (Option.map Prod.snd) find?_insertEntry_self
  · exact congrArg (Option.map Prod.snd) (find?_insertEntry_of_ne same)

end Lookup

end SortedEntries
