import FacetFilter.Json.Written
import FacetFilter.Text.Quoted

/-!
# Defects of documents

What keeps a document from being read: the text is no JSON, or a value of it is
not what its place asks for.  Each defect holds its cause; the wording is in one
function.
-/

namespace FacetFilter.Json

/-- What stands where something else was expected. -/
inductive Found where
  | null
  | bool (value : Bool)
  | number (value : Number)
  | string (value : String)
  | sequence
  | map
  deriving DecidableEq

inductive Defect where
  | notJson
  /-- A value of another kind than expected. -/
  | mismatch (found : Found) (expected : String)
  /-- A value of the right kind that is out of range. -/
  | outOfRange (found : Found) (expected : String)
  | wrongLength (length : Nat) (expected : String)
  | missingField (name : String)
  | duplicateField (name : String)
  | unknownVariant (given : String) (known : List String)
  /-- A value that is none of the alternatives of a type. -/
  | noAlternative (type : String)
  deriving DecidableEq

def Found.text : Found → String
  | .null => "null"
  | .bool value => "boolean `" ++ toString value ++ "`"
  | .number (.whole value) => "integer `" ++ toString value ++ "`"
  | .number (.double value) => "floating point `" ++ (Number.double value).render ++ "`"
  | .string value => "string " ++ Text.quote value
  | .sequence => "sequence"
  | .map => "map"

def Defect.message : Defect → String
  | .notJson => "not a JSON document"
  | .mismatch found expected => "invalid type: " ++ found.text ++ ", expected " ++ expected
  | .outOfRange found expected => "invalid value: " ++ found.text ++ ", expected " ++ expected
  | .wrongLength length expected =>
      "invalid length " ++ toString length ++ ", expected " ++ expected
  | .missingField name => "missing field `" ++ name ++ "`"
  | .duplicateField name => "duplicate field `" ++ name ++ "`"
  | .unknownVariant given known =>
      "unknown variant `" ++ given ++ "`, expected one of " ++
        ", ".intercalate (known.map fun name => "`" ++ name ++ "`")
  | .noAlternative type => "data did not match any variant of untagged enum " ++ type

/-- How a value is named where it is not expected. -/
def found : Json → Found
  | .null => .null
  | .bool value => .bool value
  | .number value => .number value
  | .string value => .string value
  | .array _ => .sequence
  | .object _ => .map

/-- The defect of a value that stands where something else is expected; an array or object is
named as soon as it begins, any other value once it denotes something. -/
def Written.mismatch (value : Written) (expected : String) : Defect :=
  match value with
  | .array _ _ => .mismatch .sequence expected
  | .object _ _ => .mismatch .map expected
  | other =>
      match other.toJson? 0 with
      | some denoted => .mismatch denoted.found expected
      | none => .notJson

end FacetFilter.Json
