import FacetFilter.Record

/-!
# Flag conditions

A flag condition selects the entities whose truth value is true or, inverted,
false.  The value that a query gives with it is kept and never looked at.
-/

namespace FacetFilter

structure FlagCondition where
  column : String
  value : Bool
  inverted : Bool
  showNull : Bool
  deriving DecidableEq

namespace FlagCondition

/-- A plain condition on a column. -/
def onColumn (column : String) : FlagCondition := ⟨column, true, false, false⟩

def accepts (condition : FlagCondition) : FieldValue → Bool
  | .null => condition.showNull
  | .bool flag => flag != condition.inverted
  | _ => false

end FlagCondition

end FacetFilter
