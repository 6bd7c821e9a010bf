import BgeRouter.Library.CompactJsonParser

/-!
# Log lines

Every log line is rendered by an inner formatter first.  `PrependModule` then
puts a member in front of the others, by an edit of the text alone.
-/

namespace BgeRouter

open CompactJson

def bgeModule : String := "router"

/-- `fmt::Error`, which carries nothing. -/
inductive FmtError where
  | error
deriving DecidableEq

/-- The wrapped formatter, which renders an event in its context. -/
structure PrependModule (Event : Type) where
  inner : Event → Except FmtError String

def stripPrefix (char : Char) : List Char → Option (List Char)
  | [] => none
  | head :: rest => if head = char then some rest else none

/-- What is written for a body without its trailing newline. -/
def prependTo (body : List Char) : List Char :=
  match stripPrefix '\x7b' body with
  | some rest =>
      match stripPrefix '\x7d' rest with
      | some rest => ("\x7b\"bge_module\":\"" ++ bgeModule ++ "\"\x7d").toList ++ rest
      | none => ("\x7b\"bge_module\":\"" ++ bgeModule ++ "\",").toList ++ rest
  | none => body

def endsWithNewline (text : List Char) : Bool :=
  text.getLast? == some '\n'

/-- The text that `format_event` writes. -/
def PrependModule.formatEvent {Event : Type} (self : PrependModule Event) (event : Event) :
    Except FmtError String := do
  let rendered ← self.inner event
  let buf := rendered.toList
  let trailingNewline := endsWithNewline buf
  let body := if trailingNewline then buf.dropLast else buf
  return .ofList (prependTo body ++ if trailingNewline then ['\n'] else [])

/-- The member that the router adds. -/
def moduleMember : Units × Value :=
  (unitsOf "bge_module".toList, .string (unitsOf bgeModule.toList))

/-- The text is a JSON object in compact form with these members, with or
without a newline behind it. -/
def IsJsonLine (text : List Char) (members : List (Units × Value)) (newline : Bool) : Prop :=
  ∃ body, parse body = some (.object members) ∧
    text = body ++ if newline then ['\n'] else []

/-- **Reference specification** of the edit. -/
structure PreservesJson {Event : Type} (formatter : PrependModule Event) : Prop where
  object : ∀ event text members newline, formatter.inner event = .ok text →
    IsJsonLine text.toList members newline →
    ∃ written, formatter.formatEvent event = .ok written ∧
      IsJsonLine written.toList (moduleMember :: members) newline ∧
      endsWithNewline written.toList = endsWithNewline text.toList
  other : ∀ event text, formatter.inner event = .ok text →
    text.toList.head? ≠ some '\x7b' → formatter.formatEvent event = .ok text

section Edit

variable {body : List Char} {members : List (Units × Value)}

/-- The spelling of the added member. -/
def modulePart : MemberText where
  name := unitsOf "bge_module".toList
  nameText := "bge_module".toList
  value := .string (unitsOf bgeModule.toList)
  valueText := '\x22' :: bgeModule.toList ++ ['\x22']

theorem spells_modulePart :
    SpellsUnits modulePart.nameText modulePart.name ∧
      Spells modulePart.valueText modulePart.value :=
  ⟨spellsUnits_unitsOf (by decide), .string (spellsUnits_unitsOf (by decide))⟩

theorem parts_of_parse (parsed : parse body = some (.object members)) :
    ∃ parts : List MemberText, members = parts.map MemberText.member ∧
      body = '\x7b' :: commaSeparated (parts.map MemberText.text) ++ ['\x7d'] ∧
      (∀ part ∈ parts, SpellsUnits part.nameText part.name) ∧
      ∀ part ∈ parts, Spells part.valueText part.value := by
  cases parse_eq_some_iff.mp parsed with
  | keyword member => simp [keywords] at member
  | object parts names values => exact ⟨parts, rfl, rfl, names, values⟩

theorem prependTo_nonempty {rest : List Char} (other : stripPrefix '\x7d' rest = none) :
    prependTo ('\x7b' :: rest) = '\x7b' :: modulePart.text ++ ',' :: rest := by
  have opening : ("\x7b\"bge_module\":\"" ++ bgeModule ++ "\",").toList =
      '\x7b' :: modulePart.text ++ [','] := by decide
  have stripped : stripPrefix '\x7b' ('\x7b' :: rest) = some rest := rfl
  rw [prependTo, stripped]
  simp only [other, opening]
  rw [List.append_assoc]
  rfl

theorem prependTo_object (parts : List MemberText) :
    prependTo ('\x7b' :: commaSeparated (parts.map MemberText.text) ++ ['\x7d']) =
      '\x7b' :: commaSeparated ((modulePart :: parts).map MemberText.text) ++ ['\x7d'] := by
  cases parts with
  | nil => decide
  | cons part others =>
      have notEmpty : (part :: others).map MemberText.text ≠ [] := by simp
      obtain ⟨more, spelled⟩ :=
        exists_commaSeparated_cons part.text (others.map MemberText.text)
      -- the text of a member starts with a quotation mark, not with a brace
      have other : stripPrefix '\x7d'
          (commaSeparated ((part :: others).map MemberText.text) ++ ['\x7d']) = none := by
        rw [List.map_cons, spelled]
        rfl
      have front : commaSeparated ((modulePart :: part :: others).map MemberText.text) =
          modulePart.text ++ ',' :: commaSeparated ((part :: others).map MemberText.text) :=
        commaSeparated_cons notEmpty
      rw [List.cons_append, prependTo_nonempty other, front]
      simp

example : prependTo "\x7b\"level\":\"INFO\"\x7d".toList =
    "\x7b\"bge_module\":\"router\",\"level\":\"INFO\"\x7d".toList := by
  decide

theorem prependTo_other (other : body.head? ≠ some '\x7b') : prependTo body = body := by
  cases body with
  | nil => rfl
  | cons head rest =>
      have differs : head ≠ '\x7b' := by simpa using other
      rw [prependTo, stripPrefix, if_neg differs]

theorem parse_prependTo (parsed : parse body = some (.object members)) :
    parse (prependTo body) = some (.object (moduleMember :: members)) := by
  obtain ⟨parts, rfl, rfl, names, values⟩ := parts_of_parse parsed
  rw [prependTo_object, parse_eq_some_iff]
  exact .object (modulePart :: parts)
    (List.forall_mem_cons.mpr ⟨spells_modulePart.1, names⟩)
    (List.forall_mem_cons.mpr ⟨spells_modulePart.2, values⟩)

theorem endsWithNewline_object (parsed : parse body = some (.object members)) :
    endsWithNewline body = false := by
  obtain ⟨parts, rfl, rfl, -, -⟩ := parts_of_parse parsed
  rw [endsWithNewline, List.getLast?_concat]
  decide

theorem endsWithNewline_line (parsed : parse body = some (.object members)) (newline : Bool) :
    endsWithNewline (body ++ if newline then ['\n'] else []) = newline := by
  cases newline with
  | true => simp [endsWithNewline]
  | false => simpa using endsWithNewline_object parsed

end Edit

section Format

variable {Event : Type} {formatter : PrependModule Event} {event : Event} {text : String}

theorem formatEvent_eq (rendered : formatter.inner event = .ok text) :
    formatter.formatEvent event =
      .ok (.ofList (prependTo (if endsWithNewline text.toList then text.toList.dropLast
        else text.toList) ++ if endsWithNewline text.toList then ['\n'] else [])) := by
  rw [PrependModule.formatEvent, rendered]
  rfl

theorem formatEvent_line {members : List (Units × Value)} {newline : Bool}
    (rendered : formatter.inner event = .ok text)
    (line : IsJsonLine text.toList members newline) :
    ∃ written, formatter.formatEvent event = .ok written ∧
      IsJsonLine written.toList (moduleMember :: members) newline ∧
      endsWithNewline written.toList = endsWithNewline text.toList := by
  obtain ⟨body, parsed, spelled⟩ := line
  have ends : endsWithNewline text.toList = newline := by
    rw [spelled]
    exact endsWithNewline_line parsed newline
  have stripped : (if newline then text.toList.dropLast else text.toList) = body := by
    rw [spelled]
    cases newline <;> simp
  have edited : parse (prependTo body) = some (.object (moduleMember :: members)) :=
    parse_prependTo parsed
  refine ⟨_, formatEvent_eq rendered, ?_⟩
  rw [ends, stripped, String.toList_ofList]
  exact ⟨⟨prependTo body, edited, rfl⟩, endsWithNewline_line edited newline⟩

theorem formatEvent_other (rendered : formatter.inner event = .ok text)
    (other : text.toList.head? ≠ some '\x7b') : formatter.formatEvent event = .ok text := by
  rw [formatEvent_eq rendered]
  cases ends : endsWithNewline text.toList with
  | false =>
      simp only [Bool.false_eq_true, if_false, prependTo_other other, List.append_nil,
        String.ofList_toList]
  | true =>
      obtain ⟨body, spelled⟩ := List.getLast?_eq_some_iff.mp (beq_iff_eq.mp ends)
      have bodyOther : body.head? ≠ some '\x7b' := by
        intro brace
        rw [spelled, List.head?_append, brace] at other
        exact other rfl
      have body_eq : text.toList.dropLast = body := by
        rw [spelled, List.dropLast_concat]
      simp only [if_true, body_eq, prependTo_other bodyOther, ← spelled, String.ofList_toList]

/-- **The edit of a log line preserves JSON**, whatever the inner formatter
renders. -/
theorem preservesJson (formatter : PrependModule Event) : PreservesJson formatter where
  object _ _ _ _ rendered line := formatEvent_line rendered line
  other _ _ rendered other := formatEvent_other rendered other

end Format

end BgeRouter
