import FacetFilter.Program.Machine

/-!
# Evaluating programs

A program without exclusive disjunctions is run over sets of ids: a condition
gives the entities it selects, negation is complement within the catalog.  A
label that no entity carries selects nothing, and an unknown column ends the run.
-/

namespace FacetFilter.Program

/-- The selection of a condition inside a program. -/
def selection (catalog : Catalog) (condition : Condition) : Journaled IdSet :=
  match condition.select catalog with
  | .ok members => pure members
  | .error (.unknownLabel kind label) => do
      Journaled.tell (.labelMissed kind label)
      pure .empty
  | .error fault => throw (.name fault)

def evaluationReading (catalog : Catalog) : Interpretation IdSet where
  leaf := selection catalog
  negation := fun members => IdSet.complement members catalog.ids
  join := fun junction position =>
    match junction with
    | .and => .ok fun left right => pure (IdSet.inter left right)
    | .or => .ok fun left right => pure (IdSet.union left right)
    | .xor => .error (.exclusive position)

/-- Tells of a disordered stack before passing the fault on. -/
def reportingViolations {α : Type} (computation : Journaled α) : Journaled α :=
  tryCatch computation fun fault => do
    if let .machine violation := fault then
      Journaled.tell (.invariantViolated violation)
    throw fault

/-- The entities that a program selects, or where `inverted` all others.  The empty program
selects every entity, inverted or not. -/
def evaluate (program : Program) (catalog : Catalog) (inverted : Bool) : Journaled IdSet :=
  if program.isEmpty then pure catalog.ids
  else do
    let whole := if inverted then program ++ [.operator .not] else program
    let members ← reportingViolations ((evaluationReading catalog).run whole)
    Journaled.tell (.programEvaluated program.length inverted members.size)
    pure members

end FacetFilter.Program
