import BgeRouter.Library.PartialRuns

/-!
# JSON texts without insignificant whitespace

Values of JSON, and the texts that spell them.  Objects keep the order of their
members and repeated names.  Strings are sequences of UTF-16 code units, since
an escaped surrogate need not be half of a pair, and numbers are kept as they
are written.
-/

namespace CompactJson

/-- A string as UTF-16 code units. -/
abbrev Units := List UInt16

inductive Value where
  | null
  | bool (value : Bool)
  | number (literal : List Char)
  | string (units : Units)
  | array (elements : List Value)
  | object (members : List (Units × Value))

/-- What has been read of a number. -/
inductive NumberState where
  | start
  | minus
  | zero
  | integer
  | point
  | fraction
  | exponent
  | sign
  | power
deriving DecidableEq

namespace NumberState

/-- The first digit is zero only if it is the only one before the point. -/
def ofFirstDigit (char : Char) : Option NumberState :=
  if char = '0' then some .zero else if char.isDigit then some .integer else none

def ofExponent (char : Char) : Option NumberState :=
  if char = 'e' ∨ char = 'E' then some .exponent else none

def ofPoint (char : Char) : Option NumberState :=
  if char = '.' then some .point else ofExponent char

def next : NumberState → Char → Option NumberState
  | .start, char => if char = '-' then some .minus else ofFirstDigit char
  | .minus, char => ofFirstDigit char
  | .zero, char => ofPoint char
  | .integer, char => if char.isDigit then some .integer else ofPoint char
  | .point, char => if char.isDigit then some .fraction else none
  | .fraction, char => if char.isDigit then some .fraction else ofExponent char
  | .exponent, char =>
      if char = '+' ∨ char = '-' then some .sign
      else if char.isDigit then some .power else none
  | .sign, char => if char.isDigit then some .power else none
  | .power, char => if char.isDigit then some .power else none

def complete : NumberState → Bool
  | .zero | .integer | .fraction | .power => true
  | _ => false

end NumberState

def IsNumber (literal : List Char) : Prop :=
  ∃ state, PartialRuns.run NumberState.next .start literal = some state ∧
    state.complete = true

/-- The code units of a character. -/
def utf16 (char : Char) : Units :=
  if char.toNat < 65536 then [.ofNat char.toNat]
  else
    [.ofNat (55296 + (char.toNat - 65536) / 1024), .ofNat (56320 + (char.toNat - 65536) % 1024)]

/-- Neither a control character nor a quotation mark nor a backslash. -/
def IsUnescaped (char : Char) : Prop :=
  32 ≤ char.toNat ∧ char ≠ '\x22' ∧ char ≠ '\x5c'

instance (char : Char) : Decidable (IsUnescaped char) :=
  inferInstanceAs (Decidable (_ ∧ _))

/-- The unit that a backslash and this character stand for. -/
def shortEscape (char : Char) : Option UInt16 :=
  [('\x22', 34), ('\x5c', 92), ('/', 47), ('b', 8), ('f', 12), ('n', 10), ('r', 13),
    ('t', 9)].lookup char

def hexDigit (char : Char) : Option Nat :=
  if char.isDigit then some (char.toNat - 48)
  else if 'a' ≤ char ∧ char ≤ 'f' then some (char.toNat - 87)
  else if 'A' ≤ char ∧ char ≤ 'F' then some (char.toNat - 55)
  else none

/-- The unit that four hexadecimal digits denote. -/
def hexUnit (first second third fourth : Char) : Option UInt16 := do
  let first ← hexDigit first
  let second ← hexDigit second
  let third ← hexDigit third
  let fourth ← hexDigit fourth
  return .ofNat (((first * 16 + second) * 16 + third) * 16 + fourth)

/-- The text between quotation marks spells these units. -/
inductive SpellsUnits : List Char → Units → Prop
  | nil : SpellsUnits [] []
  | unescaped {char : Char} {text : List Char} {units : Units} :
      IsUnescaped char → SpellsUnits text units →
      SpellsUnits (char :: text) (utf16 char ++ units)
  | shortEscape {char : Char} {unit : UInt16} {text : List Char} {units : Units} :
      shortEscape char = some unit → SpellsUnits text units →
      SpellsUnits ('\x5c' :: char :: text) (unit :: units)
  | unicodeEscape {first second third fourth : Char} {unit : UInt16} {text : List Char}
      {units : Units} :
      hexUnit first second third fourth = some unit → SpellsUnits text units →
      SpellsUnits ('\x5c' :: 'u' :: first :: second :: third :: fourth :: text) (unit :: units)

/-- The units of a text that is not escaped. -/
def unitsOf (text : List Char) : Units :=
  text.flatMap utf16

theorem spellsUnits_unitsOf {text : List Char}
    (plain : text.all (fun char => decide (IsUnescaped char)) = true) :
    SpellsUnits text (unitsOf text) := by
  induction text with
  | nil => exact .nil
  | cons char rest induction =>
      obtain ⟨first, later⟩ := Bool.and_eq_true_iff.mp plain
      exact .unescaped (of_decide_eq_true first) (induction later)

def commaSeparated : List (List Char) → List Char
  | [] => []
  | [text] => text
  | text :: others => text ++ ',' :: commaSeparated others

/-- A member of an object with its spelling. -/
structure MemberText where
  name : Units
  nameText : List Char
  value : Value
  valueText : List Char

namespace MemberText

def member (part : MemberText) : Units × Value :=
  (part.name, part.value)

def text (part : MemberText) : List Char :=
  '\x22' :: part.nameText ++ '\x22' :: ':' :: part.valueText

end MemberText

def keywords : List (List Char × Value) :=
  [(['n', 'u', 'l', 'l'], .null), (['t', 'r', 'u', 'e'], .bool true),
    (['f', 'a', 'l', 's', 'e'], .bool false)]

/-- The text is the value in compact form. -/
inductive Spells : List Char → Value → Prop
  | keyword {text : List Char} {value : Value} :
      (text, value) ∈ keywords → Spells text value
  | number {literal : List Char} : IsNumber literal → Spells literal (.number literal)
  | string {text : List Char} {units : Units} :
      SpellsUnits text units → Spells ('\x22' :: text ++ ['\x22']) (.string units)
  | array (parts : List (List Char × Value)) :
      (∀ part ∈ parts, Spells part.1 part.2) →
      Spells ('[' :: commaSeparated (parts.map Prod.fst) ++ [']'])
        (.array (parts.map Prod.snd))
  | object (parts : List MemberText) :
      (∀ part ∈ parts, SpellsUnits part.nameText part.name) →
      (∀ part ∈ parts, Spells part.valueText part.value) →
      Spells ('\x7b' :: commaSeparated (parts.map MemberText.text) ++ ['\x7d'])
        (.object (parts.map MemberText.member))

end CompactJson
