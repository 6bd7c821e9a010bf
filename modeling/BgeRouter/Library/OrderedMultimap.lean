import Mathlib.Data.List.Basic

/-!
# Multimaps in iteration order

A multimap with several values for one key is the list of the pairs that an
iteration over it yields, the values of one key next to each other.  `insert`
replaces all values of a key and `append` adds one.  What a copy loop built
from either of them yields is determined key by key.
-/

abbrev OrderedMultimap (Key Value : Type*) := List (Key × Value)

namespace OrderedMultimap

variable {Key Value : Type*} [DecidableEq Key]

def getAll (entries : OrderedMultimap Key Value) (key : Key) : List Value :=
  (entries.filter fun entry => decide (entry.1 = key)).map Prod.snd

def insert (key : Key) (value : Value) :
    OrderedMultimap Key Value → OrderedMultimap Key Value
  | [] => [(key, value)]
  | entry :: rest =>
      if entry.1 = key then
        (key, value) :: rest.filter fun other => decide (other.1 ≠ key)
      else entry :: insert key value rest

/-- Add a value after those the key has. -/
def append (key : Key) (value : Value) :
    OrderedMultimap Key Value → OrderedMultimap Key Value
  | [] => [(key, value)]
  | entry :: rest =>
      if entry.1 = key ∧ ∀ other ∈ rest, other.1 ≠ key then
        entry :: (key, value) :: rest
      else entry :: append key value rest

section Access

variable {key other : Key} {value : Value} {entries : OrderedMultimap Key Value}

@[simp]
theorem getAll_nil : getAll ([] : OrderedMultimap Key Value) key = [] :=
  rfl

theorem getAll_cons_self (entry : Key × Value) (same : entry.1 = key) :
    getAll (entry :: entries) key = entry.2 :: getAll entries key := by
  simp [getAll, same]

theorem getAll_cons_of_ne (entry : Key × Value) (ne : entry.1 ≠ key) :
    getAll (entry :: entries) key = getAll entries key := by
  simp [getAll, ne]

theorem getAll_eq_nil (absent : ∀ entry ∈ entries, entry.1 ≠ key) :
    getAll entries key = [] := by
  have noneLeft : (entries.filter fun entry => decide (entry.1 = key)) = [] :=
    List.filter_eq_nil_iff.mpr fun entry member => by simpa using absent entry member
  rw [getAll, noneLeft, List.map_nil]

theorem getAll_listAppend (first second : OrderedMultimap Key Value) :
    getAll (first ++ second) key = getAll first key ++ getAll second key := by
  simp [getAll]

/-- A filter by keys keeps all values of a key or none. -/
theorem getAll_filter (keep : Key → Bool) (entries : OrderedMultimap Key Value) (key : Key) :
    getAll (entries.filter fun entry => keep entry.1) key =
      if keep key then getAll entries key else [] := by
  induction entries with
  | nil => simp
  | cons entry rest ih =>
      by_cases same : entry.1 = key
      · subst same
        cases kept : keep entry.1 with
        | true => simp [getAll_cons_self entry rfl, kept, ih]
        | false => simp [kept, ih]
      · cases kept : keep entry.1 with
        | true => simp [getAll_cons_of_ne entry same, kept, ih]
        | false => simp [getAll_cons_of_ne entry same, kept, ih]

private theorem getAll_filter_of_ne (ne : other ≠ key) :
    getAll (entries.filter fun entry => decide (entry.1 ≠ key)) other =
      getAll entries other := by
  rw [getAll_filter fun own => decide (own ≠ key), if_pos (decide_eq_true ne)]

@[simp]
theorem getAll_insert_self : getAll (insert key value entries) key = [value] := by
  induction entries with
  | nil => simp [insert, getAll]
  | cons entry rest ih =>
      rw [insert]
      split_ifs with same
      · rw [getAll_cons_self _ rfl, getAll_eq_nil]
        intro entry member
        simpa using (List.mem_filter.mp member).2
      · rw [getAll_cons_of_ne _ same, ih]

theorem getAll_insert_of_ne (ne : other ≠ key) :
    getAll (insert key value entries) other = getAll entries other := by
  induction entries with
  | nil => simp [insert, getAll, ne.symm]
  | cons entry rest ih =>
      rw [insert]
      split_ifs with same
      · rw [getAll_cons_of_ne _ ne.symm, getAll_filter_of_ne ne,
          getAll_cons_of_ne _ (same ▸ ne.symm)]
      · by_cases found : entry.1 = other
        · rw [getAll_cons_self _ found, getAll_cons_self _ found, ih]
        · rw [getAll_cons_of_ne _ found, getAll_cons_of_ne _ found, ih]

@[simp]
theorem getAll_append_self :
    getAll (append key value entries) key = getAll entries key ++ [value] := by
  induction entries with
  | nil => simp [append, getAll]
  | cons entry rest ih =>
      rw [append]
      split_ifs with last
      · rw [getAll_cons_self _ last.1, getAll_cons_self _ rfl, getAll_cons_self _ last.1,
          getAll_eq_nil last.2]
        rfl
      · by_cases same : entry.1 = key
        · rw [getAll_cons_self _ same, getAll_cons_self _ same, ih, List.cons_append]
        · rw [getAll_cons_of_ne _ same, getAll_cons_of_ne _ same, ih]

theorem getAll_append_of_ne (ne : other ≠ key) :
    getAll (append key value entries) other = getAll entries other := by
  induction entries with
  | nil => simp [append, getAll, ne.symm]
  | cons entry rest ih =>
      rw [append]
      split_ifs with last
      · have headNe : entry.1 ≠ other := last.1 ▸ ne.symm
        rw [getAll_cons_of_ne _ headNe, getAll_cons_of_ne _ ne.symm,
          getAll_cons_of_ne _ headNe]
      · by_cases found : entry.1 = other
        · rw [getAll_cons_self _ found, getAll_cons_self _ found, ih]
        · rw [getAll_cons_of_ne _ found, getAll_cons_of_ne _ found, ih]

end Access

section Copies

variable (keep : Key → Bool) (source target : OrderedMultimap Key Value) (key : Key)

/-- Copy the entries whose key passes, with `append`. -/
def appendAll : OrderedMultimap Key Value :=
  source.foldl (fun copied entry =>
    if keep entry.1 then append entry.1 entry.2 copied else copied) target

/-- Copy the entries whose key passes, with `insert`. -/
def insertAll : OrderedMultimap Key Value :=
  source.foldl (fun copied entry =>
    if keep entry.1 then insert entry.1 entry.2 copied else copied) target

theorem getAll_appendAll :
    getAll (appendAll keep source target) key =
      getAll target key ++ if keep key then getAll source key else [] := by
  induction source generalizing target with
  | nil => simp [appendAll]
  | cons entry rest ih =>
      rw [appendAll, List.foldl_cons, ← appendAll, ih]
      by_cases same : entry.1 = key
      · subst same
        rw [getAll_cons_self _ rfl]
        cases keep entry.1 <;> simp
      · rw [getAll_cons_of_ne _ same]
        cases keep entry.1 with
        | false => rfl
        | true => rw [if_pos rfl, getAll_append_of_ne (Ne.symm same)]

theorem getAll_insertAll :
    getAll (insertAll keep source target) key =
      if keep key then
        match (getAll source key).getLast? with
        | some value => [value]
        | none => getAll target key
      else getAll target key := by
  induction source generalizing target with
  | nil => simp [insertAll]
  | cons entry rest ih =>
      rw [insertAll, List.foldl_cons, ← insertAll, ih]
      by_cases same : entry.1 = key
      · subst same
        rw [getAll_cons_self _ rfl]
        cases keep entry.1 with
        | false => rfl
        | true =>
            cases found : (getAll rest entry.1).getLast? with
            | none =>
                rw [List.getLast?_eq_none_iff] at found
                simp [found]
            | some value => simp [List.getLast?_cons, found]
      · rw [getAll_cons_of_ne _ same]
        cases keep entry.1 with
        | false => rfl
        | true => rw [if_pos rfl, getAll_insert_of_ne (Ne.symm same)]

end Copies

end OrderedMultimap
