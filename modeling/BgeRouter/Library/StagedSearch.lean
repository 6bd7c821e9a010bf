import Mathlib.Data.List.MinMax
import Mathlib.Data.Prod.Lex

/-!
# Search by stages

Some lists are searched in the order of their stages: the search stops at the
first stage with an eligible entry, and returns the first one of least key
there.  Stage by stage and key by key, this is the entry at the least place in
the lexicographic order of stage, key and position.
-/

namespace StagedSearch

section Lists

variable {Entry Key : Type*} [LinearOrder Key]

/-- An eligible entry of least key and position. -/
structure IsFirstLeast (eligible : Entry → Bool) (key : Entry → Key) (entries : List Entry)
    (position : ℕ) (entry : Entry) : Prop where
  found : entries[position]? = some entry
  passes : eligible entry = true
  least : ∀ other otherEntry, entries[other]? = some otherEntry → eligible otherEntry = true →
    toLex (key entry, position) ≤ toLex (key otherEntry, other)

variable {eligible : Entry → Bool} {key : Entry → Key} {head entry : Entry}
  {rest entries : List Entry} {position : ℕ}

theorem isFirstLeast_head :
    IsFirstLeast eligible key (head :: rest) 0 head ↔
      eligible head = true ∧ ∀ other ∈ rest, eligible other = true → key head ≤ key other := by
  constructor
  · intro first
    refine ⟨first.passes, fun other member passes => ?_⟩
    obtain ⟨index, bound, rfl⟩ := List.getElem_of_mem member
    have order := first.least (index + 1) _ (by simp [bound]) passes
    rcases Prod.Lex.toLex_le_toLex.mp order with less | ⟨same, -⟩
    · exact less.le
    · exact same.le
  · rintro ⟨passes, least⟩
    refine ⟨rfl, passes, fun other otherEntry found otherPasses => ?_⟩
    have lower : key head ≤ key otherEntry := by
      cases other with
      | zero =>
          obtain rfl := Option.some.inj found
          exact le_refl _
      | succ index => exact least otherEntry (List.mem_of_getElem? found) otherPasses
    rcases lower.lt_or_eq with less | same
    · exact Prod.Lex.toLex_le_toLex.mpr (Or.inl less)
    · exact Prod.Lex.toLex_le_toLex.mpr (Or.inr ⟨same, Nat.zero_le _⟩)

theorem isFirstLeast_succ :
    IsFirstLeast eligible key (head :: rest) (position + 1) entry ↔
      IsFirstLeast eligible key rest position entry ∧
        (eligible head = true → key entry < key head) := by
  constructor
  · intro first
    refine ⟨⟨first.found, first.passes, fun other otherEntry found passes => ?_⟩, fun passes => ?_⟩
    · have order := first.least (other + 1) otherEntry found passes
      simpa [Prod.Lex.toLex_le_toLex] using order
    · have order := first.least 0 head rfl passes
      simpa [Prod.Lex.toLex_le_toLex] using order
  · rintro ⟨first, beforeHead⟩
    refine ⟨first.found, first.passes, fun other otherEntry found passes => ?_⟩
    cases other with
    | zero =>
        obtain rfl := Option.some.inj found
        exact Prod.Lex.toLex_le_toLex.mpr (Or.inl (beforeHead passes))
    | succ index =>
        have order := first.least index otherEntry found passes
        simpa [Prod.Lex.toLex_le_toLex] using order

/-- A first least entry is the head or a first least entry of the rest. -/
theorem exists_isFirstLeast_cons :
    (∃ position, IsFirstLeast eligible key (head :: rest) position entry) ↔
      (head = entry ∧ eligible head = true ∧
        ∀ other ∈ rest, eligible other = true → key head ≤ key other) ∨
      ((∃ position, IsFirstLeast eligible key rest position entry) ∧
        (eligible head = true → key entry < key head)) := by
  constructor
  · rintro ⟨position, first⟩
    cases position with
    | zero =>
        obtain rfl : head = entry := Option.some.inj first.found
        exact Or.inl ⟨rfl, isFirstLeast_head.mp first⟩
    | succ position =>
        obtain ⟨inRest, beforeHead⟩ := isFirstLeast_succ.mp first
        exact Or.inr ⟨⟨position, inRest⟩, beforeHead⟩
  · rintro (⟨rfl, first⟩ | ⟨⟨position, inRest⟩, beforeHead⟩)
    · exact ⟨0, isFirstLeast_head.mpr first⟩
    · exact ⟨position + 1, isFirstLeast_succ.mpr ⟨inRest, beforeHead⟩⟩

/-- A search on what is shown of the entries finds what is shown of the least
entry. -/
theorem argmin_map {Shown : Type*} (shown : Entry → Shown) (shownKey : Shown → Key) :
    (entries.map shown).argmin shownKey =
      (entries.argmin fun entry => shownKey (shown entry)).map shown := by
  induction entries with
  | nil => rfl
  | cons head rest ih =>
      rw [List.map_cons, List.argmin_cons, List.argmin_cons, ih]
      cases rest.argmin fun entry => shownKey (shown entry) with
      | none => rfl
      | some least =>
          simp only [Option.map_some]
          split_ifs <;> rfl

theorem argmin_filter_eq_none_iff :
    (entries.filter eligible).argmin key = none ↔
      ∀ entry ∈ entries, eligible entry = false := by
  simp [List.argmin_eq_none, List.filter_eq_nil_iff]

/-- The least entry that remains after filtering is the first least one among
those that pass. -/
theorem argmin_filter_eq_some_iff :
    (entries.filter eligible).argmin key = some entry ↔
      ∃ position, IsFirstLeast eligible key entries position entry := by
  induction entries generalizing entry with
  | nil =>
      constructor
      · intro found
        cases found
      · rintro ⟨position, first⟩
        simpa using first.found
  | cons head rest ih =>
      rw [exists_isFirstLeast_cons, ← ih]
      cases passes : eligible head with
      | false => simp [passes]
      | true =>
          rw [List.filter_cons_of_pos passes, List.argmin_cons]
          cases found : (rest.filter eligible).argmin key with
          | none =>
              have nobody := argmin_filter_eq_none_iff.mp found
              constructor
              · intro same
                refine Or.inl ⟨Option.some.inj same, rfl, fun other member otherPasses => ?_⟩
                rw [nobody other member] at otherPasses
                cases otherPasses
              · rintro (⟨rfl, -⟩ | ⟨impossible, -⟩)
                · rfl
                · cases impossible
          | some least =>
              obtain ⟨member, leastPasses⟩ := List.mem_filter.mp (List.argmin_mem found)
              have below : ∀ other ∈ rest, eligible other = true → key least ≤ key other :=
                fun other otherMember otherPasses =>
                  List.le_of_mem_argmin (List.mem_filter.mpr ⟨otherMember, otherPasses⟩) found
              by_cases less : key least < key head
              · simp only [if_pos less]
                constructor
                · intro same
                  obtain rfl := Option.some.inj same
                  exact Or.inr ⟨rfl, fun _ => less⟩
                · rintro (⟨rfl, -, first⟩ | ⟨same, -⟩)
                  · exact absurd less (first least member leastPasses).not_gt
                  · exact same
              · simp only [if_neg less]
                constructor
                · intro same
                  refine Or.inl ⟨Option.some.inj same, trivial, ?_⟩
                  intro other otherMember otherPasses
                  exact (not_lt.mp less).trans (below other otherMember otherPasses)
                · rintro (⟨rfl, -⟩ | ⟨same, beforeHead⟩)
                  · rfl
                  · obtain rfl := Option.some.inj same
                    exact absurd (beforeHead trivial) less

end Lists

section Stages

variable {Stage Entry Key : Type*} [LinearOrder Key]

/-- The first stage with an eligible entry, and the first least entry there. -/
def search (entries : Stage → List Entry) (eligible : Stage → Entry → Bool)
    (key : Entry → Key) (stages : List Stage) : Option (Stage × Entry) :=
  stages.findSome? fun stage =>
    (((entries stage).filter (eligible stage)).argmin key).map fun entry => (stage, entry)

variable {entries : Stage → List Entry} {eligible : Stage → Entry → Bool}
  {key : Entry → Key} {stages : List Stage} {stage : Stage} {entry : Entry}

@[simp]
theorem search_nil : search entries eligible key [] = none :=
  rfl

theorem search_cons :
    search entries eligible key (stage :: stages) =
      ((((entries stage).filter (eligible stage)).argmin key).map fun entry =>
        (stage, entry)).or (search entries eligible key stages) := by
  rw [search, List.findSome?_cons]
  cases (((entries stage).filter (eligible stage)).argmin key).map fun entry =>
    (stage, entry) <;> rfl

theorem search_eq_none_iff :
    search entries eligible key stages = none ↔
      ∀ stage ∈ stages, ∀ entry ∈ entries stage, eligible stage entry = false := by
  simp only [search, List.findSome?_eq_none_iff, Option.map_eq_none_iff,
    argmin_filter_eq_none_iff]

variable [LinearOrder Stage]

/-- An eligible entry of least stage, key and position. -/
structure IsLeastPlace (entries : Stage → List Entry) (eligible : Stage → Entry → Bool)
    (key : Entry → Key) (stages : List Stage) (stage : Stage) (position : ℕ)
    (entry : Entry) : Prop where
  listed : stage ∈ stages
  found : (entries stage)[position]? = some entry
  passes : eligible stage entry = true
  least : ∀ other ∈ stages, ∀ otherPosition otherEntry,
    (entries other)[otherPosition]? = some otherEntry → eligible other otherEntry = true →
    toLex (stage, toLex (key entry, position)) ≤
      toLex (other, toLex (key otherEntry, otherPosition))

theorem isLeastPlace_cons_of_nobody {head : Stage} {position : ℕ}
    (nobody : ∀ entry ∈ entries head, eligible head entry = false) :
    IsLeastPlace entries eligible key (head :: stages) stage position entry ↔
      IsLeastPlace entries eligible key stages stage position entry := by
  have notHead : ∀ {index : ℕ} {found : Entry}, (entries head)[index]? = some found →
      eligible head found ≠ true := by
    intro index found member passes
    rw [nobody found (List.mem_of_getElem? member)] at passes
    cases passes
  constructor
  · intro first
    refine ⟨?_, first.found, first.passes, fun other member => ?_⟩
    · rcases List.mem_cons.mp first.listed with rfl | inRest
      · exact absurd first.passes (notHead first.found)
      · exact inRest
    · exact first.least other (List.mem_cons_of_mem _ member)
  · intro first
    refine ⟨List.mem_cons_of_mem _ first.listed, first.found, first.passes, ?_⟩
    intro other member otherPosition otherEntry otherFound otherPasses
    rcases List.mem_cons.mp member with rfl | inRest
    · exact absurd otherPasses (notHead otherFound)
    · exact first.least other inRest otherPosition otherEntry otherFound otherPasses

theorem isLeastPlace_cons_of_somebody {head : Stage} {position : ℕ} {other : Entry}
    (first : ∀ later ∈ stages, head < later) (member : other ∈ entries head)
    (passes : eligible head other = true) :
    IsLeastPlace entries eligible key (head :: stages) stage position entry ↔
      stage = head ∧ IsFirstLeast (eligible head) key (entries head) position entry := by
  constructor
  · intro least
    obtain ⟨index, bound, rfl⟩ := List.getElem_of_mem member
    have order := least.least head List.mem_cons_self index _
      (List.getElem?_eq_getElem bound) passes
    obtain rfl : stage = head := by
      rcases List.mem_cons.mp least.listed with same | inRest
      · exact same
      · rcases Prod.Lex.toLex_le_toLex.mp order with less | ⟨same, -⟩
        · exact absurd less (first stage inRest).not_gt
        · exact same
    refine ⟨rfl, least.found, least.passes, fun otherPosition otherEntry found otherPasses => ?_⟩
    have sameStage := least.least stage List.mem_cons_self otherPosition otherEntry found
      otherPasses
    simpa [Prod.Lex.toLex_le_toLex] using sameStage
  · rintro ⟨rfl, least⟩
    refine ⟨List.mem_cons_self, least.found, least.passes, ?_⟩
    intro later laterMember otherPosition otherEntry found otherPasses
    rcases List.mem_cons.mp laterMember with rfl | inRest
    · exact Prod.Lex.toLex_le_toLex.mpr
        (Or.inr ⟨rfl, least.least otherPosition otherEntry found otherPasses⟩)
    · exact Prod.Lex.toLex_le_toLex.mpr (Or.inl (first later inRest))

/-- **A search by stages computes the least place.** -/
theorem search_eq_some_iff (ordered : stages.Pairwise (· < ·)) :
    search entries eligible key stages = some (stage, entry) ↔
      ∃ position, IsLeastPlace entries eligible key stages stage position entry := by
  induction stages with
  | nil =>
      constructor
      · intro found
        cases found
      · rintro ⟨position, first⟩
        cases first.listed
  | cons head rest ih =>
      obtain ⟨first, restOrdered⟩ := List.pairwise_cons.mp ordered
      rw [search_cons]
      cases found : ((entries head).filter (eligible head)).argmin key with
      | none =>
          simp only [isLeastPlace_cons_of_nobody (argmin_filter_eq_none_iff.mp found)]
          exact ih restOrdered
      | some other =>
          obtain ⟨member, passes⟩ := List.mem_filter.mp (List.argmin_mem found)
          simp only [isLeastPlace_cons_of_somebody first member passes, exists_and_left,
            ← argmin_filter_eq_some_iff, found, Option.map_some, Option.some_or,
            Option.some.injEq, Prod.mk.injEq, eq_comm]

end Stages

end StagedSearch
