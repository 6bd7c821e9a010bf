import BgeRouter.Library.CompactJson
import Mathlib.Data.List.Infix

/-!
# A parser of compact JSON

The parser reads a value from the front of a text.  It accepts exactly the
texts that spell a value, and returns that value; so no text spells two.
-/

namespace CompactJson

/-- Returns what it has read and the rest of the text. -/
abbrev Parser (Result : Type) := List Char → Option (Result × List Char)

def expect (char : Char) : List Char → Option (List Char)
  | [] => none
  | head :: rest => if head = char then some rest else none

/-- Reads as much of a number as there is. -/
def takeNumber : NumberState → Parser (List Char)
  | state, [] => if state.complete then some ([], []) else none
  | state, head :: rest =>
      match state.next head with
      | some next => (takeNumber next rest).map fun (literal, rest) => (head :: literal, rest)
      | none => if state.complete then some ([], head :: rest) else none

/-- The unit that was decoded, before those that follow. -/
def unitThen (decoded : Option UInt16) (later : Option (Units × List Char)) :
    Option (Units × List Char) := do
  let unit ← decoded
  let (units, rest) ← later
  return (unit :: units, rest)

/-- Reads a string from behind its first quotation mark to behind its last. -/
def takeUnits : Parser Units
  | [] => none
  | head :: rest =>
      if head = '\x22' then some ([], rest)
      else if head = '\x5c' then
        match rest with
        | [] => none
        | escaped :: rest =>
            if escaped = 'u' then
              match rest with
              | first :: second :: third :: fourth :: rest =>
                  unitThen (hexUnit first second third fourth) (takeUnits rest)
              | _ => none
            else unitThen (shortEscape escaped) (takeUnits rest)
      else if IsUnescaped head then
        (takeUnits rest).map fun (units, rest) => (utf16 head ++ units, rest)
      else none

def takeKeyword : Parser Value := fun text =>
  keywords.findSome? fun (keyword, value) =>
    (keyword.isPrefixOf? text).map fun rest => (value, rest)

/-- Reads items separated by commas, and the bracket behind them. -/
def takeItems {Item : Type} (close : Char) (item : Parser Item) : Nat → Parser (List Item)
  | 0, _ => none
  | fuel + 1, text =>
      match item text with
      | some (first, head :: rest) =>
          if head = close then some ([first], rest)
          else if head = ',' then
            (takeItems close item fuel rest).map fun (others, rest) => (first :: others, rest)
          else none
      | _ => none

/-- The same, with possibly no item at all. -/
def takeList {Item : Type} (close : Char) (item : Parser Item) (fuel : Nat) :
    Parser (List Item) := fun text =>
  match expect close text with
  | some rest => some ([], rest)
  | none => takeItems close item fuel text

def takeMember (value : Parser Value) : Parser (Units × Value) := fun text => do
  let text ← expect '\x22' text
  let (name, text) ← takeUnits text
  let text ← expect ':' text
  let (value, text) ← value text
  return ((name, value), text)

def takeValue : Nat → Parser Value
  | 0, _ => none
  | _ + 1, [] => none
  | fuel + 1, head :: rest =>
      if head = '\x22' then
        (takeUnits rest).map fun (units, rest) => (.string units, rest)
      else if head = '[' then
        (takeList ']' (takeValue fuel) fuel rest).map
          fun (elements, rest) => (.array elements, rest)
      else if head = '\x7b' then
        (takeList '\x7d' (takeMember (takeValue fuel)) fuel rest).map
          fun (members, rest) => (.object members, rest)
      else
        (takeKeyword (head :: rest)).or
          ((takeNumber .start (head :: rest)).map
            fun (literal, rest) => (.number literal, rest))

/-- The value of the whole text. -/
def parse (text : List Char) : Option Value :=
  match takeValue (text.length + 1) text with
  | some (value, []) => some value
  | _ => none

section Leaves

variable {text rest : List Char}

theorem expect_eq_some_iff {char : Char} :
    expect char text = some rest ↔ text = char :: rest := by
  cases text with
  | nil => simp [expect]
  | cons head tail =>
      rw [expect]
      by_cases same : head = char
      · simp [same]
      · simp [same]

theorem takeNumber_sound {state : NumberState} {literal : List Char}
    (taken : takeNumber state text = some (literal, rest)) :
    text = literal ++ rest ∧
      ∃ final, PartialRuns.run NumberState.next state literal = some final ∧
        final.complete = true := by
  induction text generalizing state literal with
  | nil =>
      rw [takeNumber] at taken
      split_ifs at taken with complete
      cases taken
      exact ⟨rfl, state, rfl, complete⟩
  | cons head tail induction =>
      rw [takeNumber] at taken
      cases step : state.next head with
      | none =>
          rw [step] at taken
          split_ifs at taken with complete
          cases taken
          exact ⟨rfl, state, rfl, complete⟩
      | some next =>
          simp only [step, Option.map_eq_some_iff] at taken
          obtain ⟨⟨later, tailRest⟩, taken, same⟩ := taken
          cases same
          obtain ⟨rfl, final, reaches, complete⟩ := induction taken
          exact ⟨rfl, final, PartialRuns.run_cons.mpr ⟨next, step, reaches⟩, complete⟩

theorem unitThen_eq_some_iff {decoded : Option UInt16} {later : Option (Units × List Char)}
    {units : Units} :
    unitThen decoded later = some (units, rest) ↔
      ∃ unit others, decoded = some unit ∧ later = some (others, rest) ∧
        units = unit :: others := by
  cases decoded with
  | none => simp [unitThen]
  | some unit =>
      cases later with
      | none => simp [unitThen]
      | some parsed =>
          obtain ⟨others, after⟩ := parsed
          simp [unitThen, eq_comm, and_comm]

@[simp]
theorem takeUnits_mark : takeUnits ('\x22' :: rest) = some ([], rest) := by
  rw [takeUnits.eq_def]
  rfl

theorem takeUnits_unescaped {char : Char} (plain : IsUnescaped char) :
    takeUnits (char :: rest) =
      (takeUnits rest).map fun (units, rest) => (utf16 char ++ units, rest) := by
  rw [takeUnits.eq_def]
  simp only [if_neg plain.2.1, if_neg plain.2.2, if_pos plain]

theorem takeUnits_shortEscape {char : Char} (other : char ≠ 'u') :
    takeUnits ('\x5c' :: char :: rest) = unitThen (shortEscape char) (takeUnits rest) := by
  rw [takeUnits.eq_def]
  simp [other]

@[simp]
theorem takeUnits_unicodeEscape {first second third fourth : Char} :
    takeUnits ('\x5c' :: 'u' :: first :: second :: third :: fourth :: rest) =
      unitThen (hexUnit first second third fourth) (takeUnits rest) := by
  rw [takeUnits.eq_def]
  simp

theorem takeUnits_sound {units : Units} (taken : takeUnits text = some (units, rest)) :
    ∃ body, text = body ++ '\x22' :: rest ∧ SpellsUnits body units := by
  fun_induction takeUnits text generalizing units with
  | case1 => cases taken
  | case2 later =>
      cases taken
      exact ⟨[], rfl, .nil⟩
  | case3 => cases taken
  | case4 first second third fourth later _ induction =>
      obtain ⟨unit, others, decoded, takenLater, rfl⟩ := unitThen_eq_some_iff.mp taken
      obtain ⟨body, rfl, spells⟩ := induction takenLater
      exact ⟨_, rfl, .unicodeEscape decoded spells⟩
  | case5 => cases taken
  | case6 escaped later notUnicode _ induction =>
      obtain ⟨unit, others, decoded, takenLater, rfl⟩ := unitThen_eq_some_iff.mp taken
      obtain ⟨body, rfl, spells⟩ := induction takenLater
      exact ⟨_, rfl, .shortEscape decoded spells⟩
  | case7 head later _ _ unescaped induction =>
      obtain ⟨⟨others, after⟩, taken, same⟩ := Option.map_eq_some_iff.mp taken
      cases same
      obtain ⟨body, rfl, spells⟩ := induction taken
      exact ⟨_, rfl, .unescaped unescaped spells⟩
  | case8 => cases taken

theorem takeKeyword_sound {value : Value} (taken : takeKeyword text = some (value, rest)) :
    ∃ keyword, text = keyword ++ rest ∧ (keyword, value) ∈ keywords := by
  obtain ⟨⟨keyword, named⟩, member, found⟩ := List.exists_of_findSome?_eq_some taken
  obtain ⟨after, stripped, same⟩ := Option.map_eq_some_iff.mp found
  cases same
  exact ⟨keyword, (List.append_eq_of_isPrefixOf?_eq_some stripped).symm, member⟩

end Leaves

section Lists

variable {Part Item : Type} {parser : Parser Item} {textOf : Part → List Char}
  {itemOf : Part → Item} {Good : Part → Prop} {close : Char} {text rest : List Char}
  {items : List Item}

theorem commaSeparated_cons {others : List (List Char)} (nonempty : others ≠ []) :
    commaSeparated (text :: others) = text ++ ',' :: commaSeparated others := by
  cases others with
  | nil => exact absurd rfl nonempty
  | cons next later => rfl

theorem exists_commaSeparated_cons (text : List Char) (others : List (List Char)) :
    ∃ tail, commaSeparated (text :: others) = text ++ tail := by
  cases others with
  | nil => exact ⟨[], (List.append_nil text).symm⟩
  | cons next later => exact ⟨_, rfl⟩

/-- Whatever the parser reads is the text of a good part, for its item. -/
def Sound (parser : Parser Item) (textOf : Part → List Char) (itemOf : Part → Item)
    (Good : Part → Prop) : Prop :=
  ∀ text item rest, parser text = some (item, rest) →
    ∃ part, Good part ∧ itemOf part = item ∧ text = textOf part ++ rest

theorem takeItems_sound (sound : Sound parser textOf itemOf Good) {fuel : Nat}
    (taken : takeItems close parser fuel text = some (items, rest)) :
    ∃ parts : List Part, parts ≠ [] ∧ (∀ part ∈ parts, Good part) ∧ parts.map itemOf = items ∧
      text = commaSeparated (parts.map textOf) ++ close :: rest := by
  induction fuel generalizing text items with
  | zero => cases taken
  | succ fuel induction =>
      rw [takeItems] at taken
      split at taken
      next first head later read =>
        obtain ⟨part, good, rfl, rfl⟩ := sound text first (head :: later) read
        split_ifs at taken with closes separates
        · cases taken
          subst closes
          exact ⟨[part], List.cons_ne_nil _ _, by simpa using good, rfl, rfl⟩
        · obtain ⟨⟨others, after⟩, takenLater, same⟩ := Option.map_eq_some_iff.mp taken
          cases same
          subst separates
          obtain ⟨parts, nonempty, allGood, rfl, rfl⟩ := induction takenLater
          refine ⟨part :: parts, List.cons_ne_nil _ _, ?_, rfl, ?_⟩
          · simpa using ⟨good, allGood⟩
          · have tailNonempty : parts.map textOf ≠ [] := by simpa using nonempty
            rw [List.map_cons, commaSeparated_cons tailNonempty, List.append_assoc]
            rfl
      next => cases taken

theorem takeList_sound (sound : Sound parser textOf itemOf Good) {fuel : Nat}
    (taken : takeList close parser fuel text = some (items, rest)) :
    ∃ parts : List Part, (∀ part ∈ parts, Good part) ∧ parts.map itemOf = items ∧
      text = commaSeparated (parts.map textOf) ++ close :: rest := by
  rw [takeList] at taken
  cases closes : expect close text with
  | some after =>
      rw [closes] at taken
      cases taken
      exact ⟨[], List.forall_mem_nil _, rfl, expect_eq_some_iff.mp closes⟩
  | none =>
      rw [closes] at taken
      obtain ⟨parts, -, allGood, sameItems, sameText⟩ := takeItems_sound sound taken
      exact ⟨parts, allGood, sameItems, sameText⟩

end Lists

section Values

variable {text rest : List Char} {fuel : Nat} {value : Value}

/-- A member whose name and value are spelled as they should be. -/
def MemberText.Good (part : MemberText) : Prop :=
  SpellsUnits part.nameText part.name ∧ Spells part.valueText part.value

theorem takeMember_sound {parser : Parser Value}
    (sound : Sound parser Prod.fst Prod.snd fun part => Spells part.1 part.2) :
    Sound (takeMember parser) MemberText.text MemberText.member MemberText.Good := by
  intro text member rest taken
  simp only [takeMember, Option.bind_eq_bind, Option.bind_eq_some_iff, Prod.exists] at taken
  obtain ⟨afterMark, opened, name, afterName, named, afterColon, colon, value, afterValue,
    valued, same⟩ := taken
  cases same
  obtain ⟨nameText, nameEq, nameSpells⟩ := takeUnits_sound named
  obtain ⟨⟨valueText, _⟩, valueSpells, rfl, valueEq⟩ := sound _ _ _ valued
  refine ⟨⟨name, nameText, _, valueText⟩, ⟨nameSpells, valueSpells⟩, rfl, ?_⟩
  rw [expect_eq_some_iff.mp opened, nameEq, expect_eq_some_iff.mp colon, valueEq,
    MemberText.text]
  simp

theorem takeValue_sound :
    Sound (takeValue fuel) Prod.fst Prod.snd fun part => Spells part.1 part.2 := by
  induction fuel with
  | zero =>
      intro text value rest taken
      cases taken
  | succ fuel induction =>
      intro text value rest taken
      cases text with
      | nil => cases taken
      | cons head tail =>
          rw [takeValue] at taken
          split_ifs at taken with quotes brackets braces
          · obtain ⟨⟨units, after⟩, takenUnits, same⟩ := Option.map_eq_some_iff.mp taken
            cases same
            obtain ⟨body, rfl, spells⟩ := takeUnits_sound takenUnits
            refine ⟨(_, _), .string spells, rfl, ?_⟩
            simp [quotes]
          · obtain ⟨⟨elements, after⟩, takenList, same⟩ := Option.map_eq_some_iff.mp taken
            cases same
            obtain ⟨parts, spell, rfl, rfl⟩ := takeList_sound induction takenList
            refine ⟨(_, _), .array parts spell, rfl, ?_⟩
            simp [brackets]
          · obtain ⟨⟨members, after⟩, takenList, same⟩ := Option.map_eq_some_iff.mp taken
            cases same
            obtain ⟨parts, good, rfl, rfl⟩ :=
              takeList_sound (takeMember_sound induction) takenList
            refine ⟨(_, _), .object parts (fun part member => (good part member).1)
              (fun part member => (good part member).2), rfl, ?_⟩
            simp [braces]
          · rcases Option.or_eq_some_iff.mp taken with takenWord | ⟨-, takenNumber⟩
            · obtain ⟨keyword, sameText, member⟩ := takeKeyword_sound takenWord
              exact ⟨(keyword, value), .keyword member, rfl, sameText⟩
            · obtain ⟨⟨literal, after⟩, takenNumber, same⟩ :=
                Option.map_eq_some_iff.mp takenNumber
              cases same
              obtain ⟨sameText, isNumber⟩ := takeNumber_sound takenNumber
              exact ⟨(literal, _), .number isNumber, rfl, sameText⟩

end Values

/-- The text is over, or goes on with what may stand behind a value. -/
def EndsValue (rest : List Char) : Prop :=
  ∀ head tail, rest = head :: tail → head ∈ [',', ']', '\x7d']

section Completeness

variable {text rest : List Char}

theorem endsValue_nil : EndsValue [] := by
  intro head tail impossible
  cases impossible

theorem endsValue_cons {head : Char} (member : head ∈ [',', ']', '\x7d']) :
    EndsValue (head :: rest) := by
  rintro _ _ ⟨rfl, rfl⟩
  exact member

/-- No number contains a bracket, a comma, a quotation mark or the first letter
of a keyword. -/
theorem NumberState.next_eq_none {char : Char} (state : NumberState)
    (member : char ∈ ['\x22', '[', '\x7b', ',', ']', '\x7d', 'n', 't', 'f']) :
    state.next char = none := by
  simp only [List.mem_cons, List.not_mem_nil, or_false] at member
  rcases member with rfl | rfl | rfl | rfl | rfl | rfl | rfl | rfl | rfl <;>
    cases state <;> rfl

theorem takeNumber_complete {state final : NumberState} {literal : List Char}
    (reaches : PartialRuns.run NumberState.next state literal = some final)
    (complete : final.complete = true) (ends : EndsValue rest) :
    takeNumber state (literal ++ rest) = some (literal, rest) := by
  induction literal generalizing state with
  | nil =>
      obtain rfl := Option.some.inj reaches
      cases rest with
      | nil => rw [List.append_nil, takeNumber, if_pos complete]
      | cons head tail =>
          have stops : state.next head = none := by
            apply state.next_eq_none
            have member := ends head tail rfl
            simp only [List.mem_cons, List.not_mem_nil, or_false] at member ⊢
            tauto
          rw [List.nil_append, takeNumber, stops, if_pos complete]
  | cons head tail induction =>
      obtain ⟨next, step, reaches⟩ := PartialRuns.run_cons.mp reaches
      rw [List.cons_append, takeNumber, step]
      simp only [induction reaches, Option.map_some]

theorem takeUnits_complete {body : List Char} {units : Units}
    (spells : SpellsUnits body units) :
    takeUnits (body ++ '\x22' :: rest) = some (units, rest) := by
  induction spells with
  | nil => exact takeUnits_mark
  | unescaped plain _ induction =>
      rw [List.cons_append, takeUnits_unescaped plain, induction]
      rfl
  | @shortEscape char unit _ _ decoded _ induction =>
      have notUnicode : char ≠ 'u' := by
        rintro rfl
        cases decoded
      rw [List.cons_append, List.cons_append, takeUnits_shortEscape notUnicode, decoded,
        induction]
      rfl
  | unicodeEscape decoded _ induction =>
      simp only [List.cons_append, takeUnits_unicodeEscape, decoded, induction]
      rfl

theorem takeKeyword_complete {keyword : List Char} {value : Value}
    (member : (keyword, value) ∈ keywords) :
    takeKeyword (keyword ++ rest) = some (value, rest) := by
  simp only [keywords, List.mem_cons, Prod.mk.injEq, List.not_mem_nil, or_false] at member
  rcases member with ⟨rfl, rfl⟩ | ⟨rfl, rfl⟩ | ⟨rfl, rfl⟩
  · rfl
  · rfl
  · rfl

theorem takeKeyword_eq_none {head : Char} (other : head ∉ ['n', 't', 'f']) :
    takeKeyword (head :: rest) = none := by
  simp only [List.mem_cons, List.not_mem_nil, or_false, not_or] at other
  simp [takeKeyword, keywords, List.isPrefixOf?, other.1, other.2.1, other.2.2, Ne.symm]

end Completeness

section ListCompleteness

variable {Part Item : Type} {parser : Parser Item} {textOf : Part → List Char}
  {itemOf : Part → Item} {close : Char} {rest : List Char} {parts : List Part} {fuel : Nat}

theorem length_textOf_le {part : Part} (member : part ∈ parts) :
    (textOf part).length ≤ (commaSeparated (parts.map textOf)).length := by
  induction parts with
  | nil => cases member
  | cons first others induction =>
      obtain ⟨more, spelled⟩ := exists_commaSeparated_cons (textOf first) (others.map textOf)
      rcases List.mem_cons.mp member with rfl | later
      · rw [List.map_cons, spelled, List.length_append]
        exact Nat.le_add_right _ _
      · have nonempty : others.map textOf ≠ [] := by
          rintro empty
          rw [List.map_eq_nil_iff.mp empty] at later
          cases later
        have bounded := induction later
        rw [List.map_cons, commaSeparated_cons nonempty, List.length_append, List.length_cons]
        omega

theorem length_le_commaSeparated (parts : List Part) (textOf : Part → List Char) :
    parts.length ≤ (commaSeparated (parts.map textOf)).length + 1 := by
  induction parts with
  | nil => exact Nat.zero_le _
  | cons first others induction =>
      cases others with
      | nil => exact Nat.le_add_left _ _
      | cons second others =>
          have nonempty : (second :: others).map textOf ≠ [] := by simp
          rw [List.map_cons, commaSeparated_cons nonempty]
          simp only [List.length_append, List.length_cons] at induction ⊢
          omega

/-- The parser reads this part in front of anything that may follow it. -/
def Complete (parser : Parser Item) (textOf : Part → List Char) (itemOf : Part → Item)
    (part : Part) : Prop :=
  ∀ rest, EndsValue rest → parser (textOf part ++ rest) = some (itemOf part, rest)

theorem takeItems_complete (complete : ∀ part ∈ parts, Complete parser textOf itemOf part)
    (closes : close ∈ [']', '\x7d']) (nonempty : parts ≠ []) (enough : parts.length ≤ fuel) :
    takeItems close parser fuel (commaSeparated (parts.map textOf) ++ close :: rest) =
      some (parts.map itemOf, rest) := by
  induction parts generalizing fuel with
  | nil => exact absurd rfl nonempty
  | cons part others induction =>
      obtain ⟨first, later⟩ := List.forall_mem_cons.mp complete
      obtain ⟨left, rfl⟩ := Nat.exists_eq_add_of_le' (Nat.le_trans (Nat.le_add_left 1 _) enough)
      cases others with
      | nil =>
          have ends : EndsValue (close :: rest) :=
            endsValue_cons (List.mem_cons_of_mem ',' closes)
          have read : parser (textOf part ++ close :: rest) =
              some (itemOf part, close :: rest) := first _ ends
          simp only [List.map_cons, List.map_nil, commaSeparated, takeItems, read, if_true]
      | cons next others =>
          have separates : close ≠ ',' := by
            rintro rfl
            simp at closes
          have notLast : (next :: others).map textOf ≠ [] := by simp
          have read : parser (textOf part ++
              ',' :: (commaSeparated ((next :: others).map textOf) ++ close :: rest)) =
                some (itemOf part, _) := first _ (endsValue_cons List.mem_cons_self)
          have readLater := induction later (List.cons_ne_nil _ _)
            (Nat.le_of_succ_le_succ enough)
          rw [List.map_cons, commaSeparated_cons notLast, List.append_assoc, List.cons_append,
            takeItems, read]
          simp only [if_neg separates.symm, if_true, readLater]
          rfl

theorem takeList_complete (complete : ∀ part ∈ parts, Complete parser textOf itemOf part)
    (starts : ∀ part ∈ parts, ∃ head tail, textOf part = head :: tail ∧ head ≠ close)
    (closes : close ∈ [']', '\x7d']) (enough : parts.length ≤ fuel) :
    takeList close parser fuel (commaSeparated (parts.map textOf) ++ close :: rest) =
      some (parts.map itemOf, rest) := by
  cases parts with
  | nil => simp [takeList, expect, commaSeparated]
  | cons part others =>
      obtain ⟨head, tail, startsWith, other⟩ := starts part List.mem_cons_self
      obtain ⟨more, spelled⟩ := exists_commaSeparated_cons (textOf part) (others.map textOf)
      have notClosed : expect close
          (commaSeparated ((part :: others).map textOf) ++ close :: rest) = none := by
        rw [List.map_cons, spelled, startsWith, List.cons_append, List.cons_append, expect,
          if_neg other]
      rw [takeList, notClosed]
      exact takeItems_complete complete closes (List.cons_ne_nil part others) enough

end ListCompleteness

section Exactness

variable {text : List Char} {value : Value}

/-- A number starts with a character that starts nothing else. -/
theorem IsNumber.exists_head (isNumber : IsNumber text) :
    ∃ head tail, text = head :: tail ∧
      head ∉ ['\x22', '[', '\x7b', ',', ']', '\x7d', 'n', 't', 'f'] := by
  obtain ⟨final, reaches, complete⟩ := isNumber
  cases text with
  | nil =>
      obtain rfl := Option.some.inj reaches
      cases complete
  | cons head tail =>
      obtain ⟨next, step, -⟩ := PartialRuns.run_cons.mp reaches
      refine ⟨head, tail, rfl, fun member => ?_⟩
      rw [NumberState.next_eq_none _ member] at step
      cases step

theorem exists_head_of_keyword (member : (text, value) ∈ keywords) :
    ∃ head tail, text = head :: tail ∧ head ∈ ['n', 't', 'f'] := by
  simp only [keywords, List.mem_cons, Prod.mk.injEq, List.not_mem_nil, or_false] at member
  rcases member with ⟨rfl, -⟩ | ⟨rfl, -⟩ | ⟨rfl, -⟩
  · exact ⟨_, _, rfl, by decide⟩
  · exact ⟨_, _, rfl, by decide⟩
  · exact ⟨_, _, rfl, by decide⟩

theorem Spells.exists_head (spells : Spells text value) :
    ∃ head tail, text = head :: tail ∧ head ≠ ']' := by
  cases spells with
  | keyword member =>
      obtain ⟨head, tail, rfl, letter⟩ := exists_head_of_keyword member
      refine ⟨head, tail, rfl, ?_⟩
      rintro rfl
      simp at letter
  | number isNumber =>
      obtain ⟨head, tail, rfl, other⟩ := isNumber.exists_head
      refine ⟨head, tail, rfl, ?_⟩
      rintro rfl
      simp at other
  | string _ => exact ⟨_, _, rfl, by decide⟩
  | array _ _ => exact ⟨_, _, rfl, by decide⟩
  | object _ _ _ => exact ⟨_, _, rfl, by decide⟩

/-- A text that starts with no quotation mark or bracket is a keyword or a
number. -/
theorem takeValue_of_other {head : Char} {rest : List Char} (fuel : Nat)
    (other : head ∉ ['\x22', '[', '\x7b']) :
    takeValue (fuel + 1) (head :: rest) =
      (takeKeyword (head :: rest)).or
        ((takeNumber .start (head :: rest)).map
          fun (literal, rest) => (.number literal, rest)) := by
  simp only [List.mem_cons, List.not_mem_nil, or_false, not_or] at other
  rw [takeValue, if_neg other.1, if_neg other.2.1, if_neg other.2.2]

theorem takeMember_complete {parser : Parser Value} {part : MemberText}
    (spells : SpellsUnits part.nameText part.name)
    (complete : Complete parser Prod.fst Prod.snd (part.valueText, part.value)) :
    Complete (takeMember parser) MemberText.text MemberText.member part := by
  intro rest ends
  have named : takeUnits (part.nameText ++ '\x22' :: ':' :: (part.valueText ++ rest)) =
      some (part.name, ':' :: (part.valueText ++ rest)) := takeUnits_complete spells
  have valued : parser (part.valueText ++ rest) = some (part.value, rest) :=
    complete rest ends
  simp [takeMember, MemberText.text, MemberText.member, expect, named, valued]

/-- The fuel is enough if it exceeds the length of the text. -/
theorem takeValue_complete (spells : Spells text value) {fuel : Nat}
    (enough : text.length ≤ fuel) :
    Complete (takeValue (fuel + 1)) Prod.fst Prod.snd (text, value) := by
  induction spells generalizing fuel with
  | @keyword text value member =>
      intro rest ends
      have read : takeKeyword (text ++ rest) = some (value, rest) := takeKeyword_complete member
      obtain ⟨head, tail, rfl, letter⟩ := exists_head_of_keyword member
      have noBracket : head ∉ ['\x22', '[', '\x7b'] := by
        intro bracket
        simp only [List.mem_cons, List.not_mem_nil, or_false] at letter bracket
        rcases letter with rfl | rfl | rfl <;> simp at bracket
      rw [List.cons_append] at read ⊢
      rw [takeValue_of_other fuel noBracket, read]
      rfl
  | @number literal isNumber =>
      intro rest ends
      obtain ⟨final, reaches, complete⟩ := isNumber
      have read : takeNumber .start (literal ++ rest) = some (literal, rest) :=
        takeNumber_complete reaches complete ends
      obtain ⟨head, tail, rfl, other⟩ := IsNumber.exists_head ⟨final, reaches, complete⟩
      have noBracket : head ∉ ['\x22', '[', '\x7b'] := by
        intro bracket
        exact other (List.mem_append_left [',', ']', '\x7d', 'n', 't', 'f'] bracket)
      have noLetter : head ∉ ['n', 't', 'f'] := by
        intro letter
        exact other (List.mem_append_right ['\x22', '[', '\x7b', ',', ']', '\x7d'] letter)
      rw [List.cons_append] at read ⊢
      rw [takeValue_of_other fuel noBracket, takeKeyword_eq_none noLetter, read]
      rfl
  | string spells =>
      intro rest ends
      simp [takeValue, takeUnits_complete spells]
  | array parts spelled induction =>
      intro rest ends
      simp only [List.cons_append, List.length_cons, List.length_append, List.length_nil]
        at enough
      obtain ⟨left, rfl⟩ := Nat.exists_eq_add_of_le' (Nat.le_of_add_left_le enough)
      have complete : ∀ part ∈ parts,
          Complete (takeValue (left + 1)) Prod.fst Prod.snd part := by
        intro part member
        apply induction part member
        have bounded : part.1.length ≤ _ := length_textOf_le member
        omega
      have count : parts.length ≤ left + 1 := by
        have bounded := length_le_commaSeparated parts Prod.fst
        omega
      have read : takeList ']' (takeValue (left + 1)) (left + 1)
          (commaSeparated (parts.map Prod.fst) ++ ']' :: rest) =
            some (parts.map Prod.snd, rest) :=
        takeList_complete complete (fun part member => (spelled part member).exists_head)
          (by decide) count
      simp [takeValue, read]
  | object parts names spelled induction =>
      intro rest ends
      simp only [List.cons_append, List.length_cons, List.length_append, List.length_nil]
        at enough
      obtain ⟨left, rfl⟩ := Nat.exists_eq_add_of_le' (Nat.le_of_add_left_le enough)
      have complete : ∀ part ∈ parts,
          Complete (takeMember (takeValue (left + 1))) MemberText.text MemberText.member
            part := by
        intro part member
        apply takeMember_complete (names part member)
        apply induction part member
        have bounded : part.text.length ≤ _ := length_textOf_le member
        simp only [MemberText.text, List.cons_append, List.length_cons, List.length_append]
          at bounded
        omega
      have count : parts.length ≤ left + 1 := by
        have bounded := length_le_commaSeparated parts MemberText.text
        omega
      have read : takeList '\x7d' (takeMember (takeValue (left + 1))) (left + 1)
          (commaSeparated (parts.map MemberText.text) ++ '\x7d' :: rest) =
            some (parts.map MemberText.member, rest) :=
        takeList_complete complete (fun part _ => ⟨_, _, rfl, by decide⟩) (by decide) count
      simp [takeValue, read]

/-- **The parser is exact**: it accepts what spells a value, and nothing else. -/
theorem parse_eq_some_iff : parse text = some value ↔ Spells text value := by
  constructor
  · intro parsed
    rw [parse] at parsed
    split at parsed
    next other read =>
      cases parsed
      obtain ⟨⟨front, named⟩, spells, rfl, rfl⟩ := takeValue_sound _ _ _ read
      rw [List.append_nil]
      exact spells
    next => cases parsed
  · intro spells
    have read : takeValue (text.length + 1) (text ++ []) = some (value, []) :=
      takeValue_complete spells (Nat.le_refl _) [] endsValue_nil
    rw [List.append_nil] at read
    rw [parse, read]

end Exactness

end CompactJson
