import FacetFilter.Condition

/-!
# Programs

A program lists conditions and operators, operands first and the operator after
them.  A formula is the tree behind it; writing the tree out gives a program
that leaves one result.
-/

namespace FacetFilter

inductive Instruction where
  | leaf (condition : Condition)
  | operator (operator : Operator)
  deriving BEq

namespace Instruction

def render : Instruction → String
  | .leaf condition => condition.render
  | .operator operation => operation.text

def condition? : Instruction → Option Condition
  | .leaf condition => some condition
  | .operator _ => none

def isXor : Instruction → Bool
  | .operator (.join .xor) => true
  | _ => false

end Instruction

abbrev Program := List Instruction

/-- The columns that the conditions of a program read. -/
def Program.columns (program : Program) : Columns :=
  .ofList (program.filterMap fun instruction => instruction.condition?.bind Condition.column?)

inductive Formula where
  | leaf (condition : Condition)
  | negation (operand : Formula)
  | join (junction : Junction) (left right : Formula)

namespace Formula

/-- The instructions of a formula, in front of `rest`. -/
def listOnto : Formula → Program → Program
  | .leaf condition, rest => .leaf condition :: rest
  | .negation operand, rest => operand.listOnto (.operator .not :: rest)
  | .join junction left right, rest =>
      left.listOnto (right.listOnto (.operator (.join junction) :: rest))

def program (formula : Formula) : Program := formula.listOnto []

def size : Formula → Nat
  | .leaf _ => 1
  | .negation operand => operand.size + 1
  | .join _ left right => left.size + right.size + 1

end Formula

end FacetFilter
