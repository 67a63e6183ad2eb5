import FacetFilter.Program.Machine
import FacetFilter.Settings

/-!
# Writing out exclusive disjunctions

`A XOR B` is written out as `(A AND NOT B) OR (NOT A AND B)`, so both operands
occur twice and a chain of them grows exponentially.  The length of every
written-out operand is settled before it is built and held against a limit.
-/

namespace FacetFilter

/-- A formula with its size at hand. -/
structure Operand where
  formula : Formula
  size : Nat
  size_eq : size = formula.size

namespace Operand

def ofCondition (condition : Condition) : Operand := ⟨.leaf condition, 1, rfl⟩

def negation (operand : Operand) : Operand where
  formula := .negation operand.formula
  size := operand.size + 1
  size_eq := by simp only [Formula.size, operand.size_eq]

def join (junction : Junction) (left right : Operand) : Operand where
  formula := .join junction left.formula right.formula
  size := left.size + right.size + 1
  size_eq := by simp only [Formula.size, left.size_eq, right.size_eq]

/-- The opposite of an operand, under the chosen expansion. -/
def opposite (expansion : Expansion) (operand : Operand) : Operand :=
  match expansion with
  | .complement => operand.negation
  | .flipLeaves =>
      match operand.formula with
      | .leaf condition => ofCondition condition.flip
      | _ => operand.negation

/-- The written-out exclusive disjunction. -/
def exclusive (expansion : Expansion) (left right : Operand) : Operand :=
  join .or
    (join .and left (right.opposite expansion))
    (join .and (left.opposite expansion) right)

/-- The size of the written-out disjunction when both operands are negated by an instruction. -/
def projectedSize (left right : Operand) : Nat := 2 * (left.size + right.size) + 5

end Operand

namespace Program

/-- Rebuilds formulas and writes out each exclusive disjunction in the order of the program. -/
def expansionReading (settings : Settings) : Interpretation Operand where
  leaf := fun condition => pure (.ofCondition condition)
  negation := .negation
  join := fun junction position => .ok fun left right =>
    match junction with
    | .xor => do
        let projected := left.projectedSize right
        if settings.maxInstructions < projected then
          Journaled.tell (.expansionRefused position projected settings.maxInstructions)
          throw (.query (.tooLarge settings.maxInstructions position))
        pure (left.exclusive settings.expansion right)
    | other => pure (.join other left right)

/-- The program without exclusive disjunctions. -/
def expand (settings : Settings) (program : Program) : Journaled Program := do
  let operand ← (expansionReading settings).run program
  Journaled.tell (.expanded (program.countP Instruction.isXor) program.length operand.size)
  pure operand.formula.program

end Program

end FacetFilter
