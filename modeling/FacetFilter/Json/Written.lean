import FacetFilter.Json.Basic
import FacetFilter.Json.StringText

/-!
# Documents as far as they are written

A reader that meets a wrong value stops there, whatever follows, so a document
is first taken as far as it goes: the tree below ends where the text stops being
a document, and keeps as written the numbers and strings that denote nothing.
What is skipped is read by the same scanner and asked for no value.
-/

namespace FacetFilter.Json

inductive Written where
  | null
  | bool (value : Bool)
  | number (literal : Decimal.Literal)
  /-- No text where an escape names half of a character. -/
  | string (text : Option String)
  /-- The items read; where the array has not ended, the text is unreadable after them. -/
  | array (items : List Written) (ended : Bool)
  | object (members : List (Option String × Written)) (ended : Bool)
  | unreadable

namespace Written

instance : Inhabited Written := ⟨unreadable⟩

def skipSpace : List Char → List Char :=
  List.dropWhile fun char => char == ' ' || char == '\t' || char == '\n' || char == '\r'

def ofUnits (units : List StringUnit) : Option String := (joinUnits? units).map String.ofList

/-! ## Numbers -/

/-- A nonempty run of digits and what follows it. -/
def scanDigits? (text : List Char) : Option (List Char × List Char) :=
  match text.span Decimal.isDigit with
  | ([], _) => none
  | found => some found

/-- A whole part has no leading zero. -/
def scanWhole? (text : List Char) : Option (List Char × List Char) :=
  match scanDigits? text with
  | some ('0' :: _ :: _, _) => none
  | found => found

def scanFraction? : List Char → Option (List Char × List Char)
  | '.' :: rest => scanDigits? rest
  | text => some ([], text)

def scanExponent? : List Char → Option (Bool × List Char × List Char)
  | [] => some (false, [], [])
  | mark :: rest =>
      if mark == 'e' || mark == 'E' then
        let (negative, rest) := Decimal.splitSign rest
        (scanDigits? rest).map fun (digits, rest) => (negative, digits, rest)
      else some (false, [], mark :: rest)

def scanNumber? (text : List Char) : Option (Decimal.Literal × List Char) := do
  let (negative, rest) := match text with
    | '-' :: rest => (true, rest)
    | rest => (false, rest)
  let (whole, rest) ← scanWhole? rest
  let (fraction, rest) ← scanFraction? rest
  let (exponentNegative, exponent, rest) ← scanExponent? rest
  pure (⟨negative, whole, fraction, exponentNegative, exponent⟩, rest)

/-! ## Values -/

/-- A value that is no string, array or object. -/
def scanPlain : List Char → Written × Option (List Char)
  | 'n' :: 'u' :: 'l' :: 'l' :: rest => (.null, some rest)
  | 't' :: 'r' :: 'u' :: 'e' :: rest => (.bool true, some rest)
  | 'f' :: 'a' :: 'l' :: 's' :: 'e' :: rest => (.bool false, some rest)
  | text =>
      match scanNumber? text with
      | some (literal, rest) => (.number literal, some rest)
      | none => (.unreadable, none)

mutual

/-- Reads one value; nothing is left where the text is unreadable.  No character is worth more
than two nested calls. -/
def scanValue : Nat → List Char → Written × Option (List Char)
  | 0, _ => (.unreadable, none)
  | calls + 1, text =>
      match skipSpace text with
      | '"' :: rest =>
          match scanString? rest with
          | some (units, rest) => (.string (ofUnits units), some rest)
          | none => (.unreadable, none)
      | '[' :: rest =>
          match skipSpace rest with
          | ']' :: rest => (.array [] true, some rest)
          | rest =>
              let (items, rest) := scanItems calls rest
              (.array items rest.isSome, rest)
      | '\x7b' :: rest =>
          match skipSpace rest with
          | '\x7d' :: rest => (.object [] true, some rest)
          | rest =>
              let (members, rest) := scanMembers calls rest
              (.object members rest.isSome, rest)
      | text => scanPlain text

/-- Reads the items of an array up to its closing bracket. -/
def scanItems : Nat → List Char → List Written × Option (List Char)
  | 0, _ => ([], none)
  | calls + 1, text =>
      match scanValue calls text with
      | (item, none) => ([item], none)
      | (item, some rest) =>
          match skipSpace rest with
          | ',' :: rest =>
              let (items, rest) := scanItems calls rest
              (item :: items, rest)
          | ']' :: rest => ([item], some rest)
          | _ => ([item], none)

/-- Reads the members of an object up to its closing brace. -/
def scanMembers : Nat → List Char → List (Option String × Written) × Option (List Char)
  | 0, _ => ([], none)
  | calls + 1, text =>
      match skipSpace text with
      | '"' :: rest =>
          match scanString? rest with
          | none => ([], none)
          | some (units, rest) =>
              match skipSpace rest with
              | ':' :: rest =>
                  match scanValue calls rest with
                  | (value, none) => ([(ofUnits units, value)], none)
                  | (value, some rest) =>
                      match skipSpace rest with
                      | ',' :: rest =>
                          let (members, rest) := scanMembers calls rest
                          ((ofUnits units, value) :: members, rest)
                      | '\x7d' :: rest => ([(ofUnits units, value)], some rest)
                      | _ => ([(ofUnits units, value)], none)
              | _ => ([(ofUnits units, .unreadable)], none)
      | _ => ([], none)

end

/-- The value that a text begins with, and whether nothing but space follows it. -/
def ofText (text : String) : Written × Bool :=
  let chars := text.toList
  match scanValue (2 * chars.length + 2) chars with
  | (value, some rest) => (value, (skipSpace rest).isEmpty)
  | (value, none) => (value, false)

/-! ## Complete values -/

mutual

/-- The value denoted, if it is complete, each of its parts denotes something, and it nests no
deeper than `depth`. -/
def toJson? (depth : Nat) : Written → Option Json
  | .null => some .null
  | .bool value => some (.bool value)
  | .number literal => .number <$> Number.ofLiteral? literal
  | .string text => .string <$> text
  | .array items ended =>
      if ended && depth != 0 then .array <$> itemsToJson? (depth - 1) items else none
  | .object members ended =>
      if ended && depth != 0 then .object <$> membersToJson? (depth - 1) members else none
  | .unreadable => none

def itemsToJson? (depth : Nat) : List Written → Option (List Json)
  | [] => some []
  | item :: items => do
      let item ← toJson? depth item
      let items ← itemsToJson? depth items
      pure (item :: items)

def membersToJson? (depth : Nat) : List (Option String × Written) → Option (List (String × Json))
  | [] => some []
  | (name, value) :: members => do
      let name ← name
      let value ← toJson? depth value
      let members ← membersToJson? depth members
      pure ((name, value) :: members)

end

mutual

/-- Whether a value that is skipped is complete. -/
def isComplete : Written → Bool
  | .unreadable => false
  | .array items ended => ended && itemsComplete items
  | .object members ended => ended && membersComplete members
  | _ => true

def itemsComplete : List Written → Bool
  | [] => true
  | item :: items => isComplete item && itemsComplete items

def membersComplete : List (Option String × Written) → Bool
  | [] => true
  | (_, value) :: members => isComplete value && membersComplete members

end

end Written

/-- The value of a text that holds one complete document and nothing else. -/
def parse? (text : String) : Option Json :=
  match Written.ofText text with
  | (value, true) => value.toJson? maxDepth
  | (_, false) => none

end FacetFilter.Json
