import FacetFilter.Condition.Text
import FacetFilter.Condition.Number
import FacetFilter.Condition.Flag
import FacetFilter.Condition.Label

/-!
# Conditions

The leaves of a filter: a test of one column, or of the labels of one kind.
Conditions are values, so one may stand in a program many times.
-/

namespace FacetFilter

inductive Condition where
  | text (condition : TextCondition)
  | number (condition : NumberCondition)
  | flag (condition : FlagCondition)
  | label (kind : LabelKind) (condition : LabelCondition)
  deriving BEq

namespace Condition

def inverted : Condition → Bool
  | .text condition => condition.inverted
  | .number condition => condition.inverted
  | .flag condition => condition.inverted
  | .label _ condition => condition.inverted

/-- The same condition with its inversion flipped. -/
def flip : Condition → Condition
  | .text condition => .text { condition with inverted := !condition.inverted }
  | .number condition => .number { condition with inverted := !condition.inverted }
  | .flag condition => .flag { condition with inverted := !condition.inverted }
  | .label kind condition => .label kind { condition with inverted := !condition.inverted }

/-- The column that is read; labels are in none. -/
def column? : Condition → Option String
  | .text condition => some condition.column
  | .number condition => some condition.column
  | .flag condition => some condition.column
  | .label _ _ => none

def kindName : Condition → String
  | .text _ => "text"
  | .number _ => "number"
  | .flag _ => "boolean"
  | .label kind _ => kind.name

def showNull : Condition → Bool
  | .text condition => condition.showNull
  | .number condition => condition.showNull
  | .flag condition => condition.showNull
  | .label _ _ => false

/-! ## Selection -/

/-- The entities whose value in a column of the schema is accepted. -/
def selectColumn (column : String) (accepts : FieldValue → Bool) (catalog : Catalog) :
    Except NameFault IdSet :=
  if catalog.hasColumn column then
    .ok (catalog.idsWhere fun record => accepts (record.value column))
  else .error (.unknownColumn column)

/-- The entities that satisfy the condition. -/
def select (condition : Condition) (catalog : Catalog) : Except NameFault IdSet :=
  match condition with
  | .text condition => selectColumn condition.column condition.accepts catalog
  | .number condition => selectColumn condition.column condition.accepts catalog
  | .flag condition => selectColumn condition.column condition.accepts catalog
  | .label kind condition => condition.select kind catalog

/-! ## Text -/

def bodyText : Condition → String
  | .text condition =>
      condition.column ++ " " ++ condition.test.text ++ " " ++ Text.quote condition.value ++
        (if condition.caseSensitive then " cs" else "")
  | .number condition =>
      condition.column ++ " " ++ condition.comparison.text ++ " " ++
        Decimal.Layout.plain.render condition.value
  | .flag condition => condition.column
  | .label _ condition => condition.test.text ++ " " ++ Text.quote condition.value

/-- The condition as one word of a program, a tilde in front where it is inverted. -/
def render (condition : Condition) : String :=
  (if condition.inverted then "~" else "") ++ condition.kindName ++ "(" ++ condition.bodyText ++
    (if condition.showNull then " +null" else "") ++ ")"

end Condition

end FacetFilter
