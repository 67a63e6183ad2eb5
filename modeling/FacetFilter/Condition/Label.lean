import FacetFilter.Catalog
import FacetFilter.Fault
import FacetFilter.Text.Blank

/-!
# Label conditions

A label condition asks for a label among the tags or the colors of an entity.
Inversion is not complement: inverted, `has` asks for some other label, and
`has_only` for the label beside others.
-/

namespace FacetFilter

inductive LabelTest where
  | has
  | hasOnly
  deriving DecidableEq

namespace LabelTest

def text : LabelTest → String
  | .has => "has"
  | .hasOnly => "has_only"

def ofText? : String → Option LabelTest
  | "has" => some .has
  | "has_only" => some .hasOnly
  | _ => none

def read (given : String) : Except QueryFault LabelTest :=
  match ofText? (Text.trim given) with
  | some test => .ok test
  | none => .error (.unknownOperation .membership (Text.trim given))

end LabelTest

structure LabelCondition where
  test : LabelTest
  value : String
  inverted : Bool
  deriving DecidableEq

namespace LabelCondition

def accepts (condition : LabelCondition) (labels : List String) : Bool :=
  match condition.test with
  | .has => labels.any fun label => (label == condition.value) != condition.inverted
  | .hasOnly =>
      labels.contains condition.value &&
        (if condition.inverted then 1 < labels.length else labels.length == 1)

/-- A label that no entity carries is an unknown name, even where the inversion asks for it. -/
def select (condition : LabelCondition) (kind : LabelKind) (catalog : Catalog) :
    Except NameFault IdSet :=
  if catalog.hasLabel kind condition.value then
    .ok (catalog.idsWhere fun record => condition.accepts (record.labels kind))
  else .error (.unknownLabel kind condition.value)

end LabelCondition

end FacetFilter
