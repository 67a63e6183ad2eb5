import FacetFilter.Fault
import FacetFilter.Record
import FacetFilter.Text.Blank
import FacetFilter.Text.CaseFold
import FacetFilter.Text.Lowercase

/-!
# Text conditions

A text condition looks for its value in the text of a field: as the whole of it,
at one of its ends, or anywhere.  Where case does not count, the value is put
into lower case once and compared character by character up to case.
-/

namespace FacetFilter

inductive TextTest where
  | exact
  | startsWith
  | endsWith
  | contains
  deriving DecidableEq

namespace TextTest

def text : TextTest → String
  | .exact => "exact"
  | .startsWith => "startswith"
  | .endsWith => "endswith"
  | .contains => "contains"

def ofText? (given : String) : Option TextTest :=
  match Text.lowerAscii (Text.trim given) with
  | "exact" | "is" => some .exact
  | "startswith" => some .startsWith
  | "endswith" => some .endsWith
  | "contains" => some .contains
  | _ => none

def read (given : String) : Except QueryFault TextTest :=
  match ofText? given with
  | some test => .ok test
  | none => .error (.unknownOperation .text given)

/-- Whether `part` is a run of neighbours in `whole`. -/
def isRunOf (part : List Char) : List Char → Bool
  | [] => part.isEmpty
  | head :: tail => part.isPrefixOf (head :: tail) || isRunOf part tail

def holds (test : TextTest) (value text : List Char) : Bool :=
  match test with
  | .exact => text == value
  | .startsWith => value.isPrefixOf text
  | .endsWith => value.isSuffixOf text
  | .contains => isRunOf value text

end TextTest

/-- A test of the text of a field.  Whether a text matches is computed from the test, the value
and the case setting alone; nothing that is prepared from them is kept beside them, so conditions
with equal fields accept the same fields. -/
structure TextCondition where
  column : String
  test : TextTest
  value : String
  caseSensitive : Bool
  inverted : Bool
  showNull : Bool
  deriving DecidableEq

namespace TextCondition

/-- Unless case counts, the condition keeps its value in lower case. -/
def make (column : String) (test : TextTest) (value : String)
    (caseSensitive inverted showNull : Bool) : TextCondition where
  column
  test
  value := if caseSensitive then value else Text.lower value
  caseSensitive
  inverted
  showNull

def comparable (condition : TextCondition) (text : String) : List Char :=
  if condition.caseSensitive then text.toList else Text.fold text.toList

def matchesText (condition : TextCondition) (text : String) : Bool :=
  condition.test.holds (condition.comparable condition.value) (condition.comparable text)

/-- A null field is selected only where nulls are shown, inverted or not. -/
def accepts (condition : TextCondition) (field : FieldValue) : Bool :=
  match field.comparedText with
  | none => condition.showNull
  | some text => condition.matchesText text != condition.inverted

end TextCondition

end FacetFilter
