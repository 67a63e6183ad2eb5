import FacetFilter.Decimal.Layout
import FacetFilter.IdSet

/-!
# Records

An entity of a catalog has scalar fields, named by columns, and two lists of
labels, its tags and its colors.  A field that is absent reads as null.
-/

namespace FacetFilter

inductive FieldValue where
  | null
  | bool (value : Bool)
  | number (value : Binary64)
  | text (value : String)
  deriving DecidableEq

namespace FieldValue

instance : Inhabited FieldValue := ⟨null⟩

/-- The text that a text condition compares; null has none. -/
def comparedText : FieldValue → Option String
  | .null => none
  | .bool value => some (toString value)
  | .number value => some (Decimal.Layout.plain.render value)
  | .text value => some value

/-- The order of a number against `bound`; no other value has one. -/
def compareNumber? : FieldValue → Binary64 → Option Ordering
  | .number value, bound => value.compare? bound
  | _, _ => none

end FieldValue

/-- The lists of labels that an entity carries. -/
inductive LabelKind where
  | tag
  | color
  deriving DecidableEq

def LabelKind.name : LabelKind → String
  | .tag => "tag"
  | .color => "color"

abbrev Fields := Ascending (Prod.fst : String × FieldValue → String)

structure Record where
  id : EntityId
  fields : Fields
  tags : List String
  colors : List String
  deriving DecidableEq

namespace Record

def value (record : Record) (column : String) : FieldValue :=
  ((record.fields.find? column).map Prod.snd).getD .null

def labels (record : Record) : LabelKind → List String
  | .tag => record.tags
  | .color => record.colors

end Record

end FacetFilter
