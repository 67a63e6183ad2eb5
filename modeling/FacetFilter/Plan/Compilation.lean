import FacetFilter.Plan
import FacetFilter.Program.Expansion
import FacetFilter.Query.Symbols

/-!
# Compiling queries

A query becomes symbols, the symbols a program, and the program one without
exclusive disjunctions.  Each step tells its sizes.  A query without a leaf asks
for nothing and selects everything, its inversion notwithstanding.
-/

namespace FacetFilter

namespace Query

/-- The expression of a list of nodes, told. -/
def emit (settings : Settings) (nodes : List Node) : Journaled (List Symbol) :=
  match symbols settings nodes with
  | .error fault => throw (.query fault)
  | .ok emitted => do
      Journaled.tell (.symbolsEmitted nodes.length emitted.length)
      pure emitted

end Query

namespace Program

/-- The program of an expression, told. -/
def build (symbols : List Symbol) : Journaled Program :=
  match ofSymbols symbols with
  | .error fault => throw (.query (.structural fault))
  | .ok program => do
      Journaled.tell (.programBuilt symbols.length program.length)
      pure program

end Program

namespace Query

def compile (settings : Settings) (query : Query) : Journaled Plan := do
  if query.leafCount = 0 then
    Journaled.tell .emptyQuery
    pure .everything
  else
    let symbols ← emit settings query.nodes
    let built ← Program.build symbols
    let program ← built.expand settings
    Journaled.tell
      (.planCompiled query.leafCount symbols.length program.length query.inverted)
    pure ⟨program, query.inverted⟩

/-- Compiles the query and executes its plan. -/
def run (settings : Settings) (query : Query) (catalog : Catalog) : Journaled IdSet := do
  let plan ← query.compile settings
  plan.execute catalog

end Query

end FacetFilter
