import FacetFilter.Fault
import FacetFilter.Record
import FacetFilter.Text.Blank

/-!
# Number conditions

A number condition tests how a numeric field compares with its bound.  A field
that does not compare, of another type or not a number, is selected neither by
the condition nor by its inversion.
-/

namespace FacetFilter

inductive Comparison where
  | equal
  | notEqual
  | less
  | lessOrEqual
  | greater
  | greaterOrEqual
  deriving DecidableEq

namespace Comparison

def text : Comparison → String
  | .equal => "=="
  | .notEqual => "!="
  | .less => "<"
  | .lessOrEqual => "<="
  | .greater => ">"
  | .greaterOrEqual => ">="

def ofText? : String → Option Comparison
  | "==" | "=" => some .equal
  | "!=" => some .notEqual
  | "<" => some .less
  | "<=" => some .lessOrEqual
  | ">" => some .greater
  | ">=" => some .greaterOrEqual
  | _ => none

def read (given : String) : Except QueryFault Comparison :=
  match ofText? (Text.trim given) with
  | some comparison => .ok comparison
  | none => .error (.unknownOperation .number (Text.trim given))

def holds : Comparison → Ordering → Bool
  | .equal, ordering => ordering == .eq
  | .notEqual, ordering => ordering != .eq
  | .less, ordering => ordering == .lt
  | .lessOrEqual, ordering => ordering != .gt
  | .greater, ordering => ordering == .gt
  | .greaterOrEqual, ordering => ordering != .lt

end Comparison

structure NumberCondition where
  column : String
  comparison : Comparison
  value : Binary64
  inverted : Bool
  showNull : Bool
  deriving BEq

namespace NumberCondition

def accepts (condition : NumberCondition) (field : FieldValue) : Bool :=
  match field with
  | .null => condition.showNull
  | field =>
      match field.compareNumber? condition.value with
      | some ordering => condition.comparison.holds ordering != condition.inverted
      | none => false

end NumberCondition

end FacetFilter
