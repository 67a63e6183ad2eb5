import FacetFilter.Ascending

/-!
# Settings

How queries are compiled: which names stand for which columns, how an exclusive
disjunction is written out, and how long a written-out operand may grow.
-/

namespace FacetFilter

/-- How the operands of an exclusive disjunction are negated. -/
inductive Expansion where
  /-- By complement, so the disjunction is exactly the symmetric difference. -/
  | complement
  /-- By flipping where the operand is one condition, and by complement elsewhere. -/
  | flipLeaves
  deriving DecidableEq

abbrev Aliases := Ascending (Prod.fst : String × String → String)

structure Settings where
  aliases : Aliases
  expansion : Expansion
  maxInstructions : Nat
  deriving DecidableEq

namespace Settings

def standard : Settings := ⟨.empty, .complement, 65536⟩

instance : Inhabited Settings := ⟨standard⟩

/-- Lets `name` stand for `column` from now on. -/
def addAlias (settings : Settings) (name column : String) : Settings :=
  { settings with aliases := settings.aliases.insert (name, column) }

/-- The column that a name stands for; an alias is followed once. -/
def resolve (settings : Settings) (name : String) : String :=
  ((settings.aliases.find? name).map Prod.snd).getD name

end Settings

end FacetFilter
