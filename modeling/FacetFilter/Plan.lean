import FacetFilter.Program.Evaluation

/-!
# Plans

A plan is a program without exclusive disjunctions and an inversion of the whole.
It can be held against any catalog: first every column it reads has to be there,
then the program is evaluated.  The empty plan selects everything.
-/

namespace FacetFilter

structure Plan where
  program : Program
  inverted : Bool
  deriving BEq

namespace Plan

/-- The plan of a query without leaves. -/
def everything : Plan := ⟨[], false⟩

instance : Inhabited Plan := ⟨everything⟩

def selectsAll (plan : Plan) : Bool := plan.program.isEmpty

def columns (plan : Plan) : Columns := plan.program.columns

/-- The instructions as words, an inversion as a last negation. -/
def render (plan : Plan) : String :=
  if plan.selectsAll then "ALL"
  else
    " ".intercalate (plan.program.map Instruction.render) ++ (if plan.inverted then " NOT" else "")

/-- The first column of the plan, in the order of names, that the catalog does not have. -/
def missingColumn? (plan : Plan) (catalog : Catalog) : Option String :=
  plan.columns.toList.find? fun column => !catalog.hasColumn column

def validate (plan : Plan) (catalog : Catalog) : Journaled Unit :=
  match plan.missingColumn? catalog with
  | some column => do
      Journaled.tell (.unknownColumn column)
      throw (.name (.unknownColumn column))
  | none => pure ()

/-- The selection of the plan; nothing is evaluated unless every column is there. -/
def execute (plan : Plan) (catalog : Catalog) : Journaled IdSet := do
  plan.validate catalog
  plan.program.evaluate catalog plan.inverted

end Plan

end FacetFilter
