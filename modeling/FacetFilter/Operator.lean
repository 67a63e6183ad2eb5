/-!
# Operators

Conditions are joined by three junctions and negated.  Negation binds tightest,
then conjunction, exclusive disjunction and disjunction; the junctions group to
the left.
-/

namespace FacetFilter

/-- The operators between two operands. -/
inductive Junction where
  | and
  | or
  | xor
  deriving DecidableEq

def Junction.text : Junction → String
  | .and => "AND"
  | .or => "OR"
  | .xor => "XOR"

inductive Operator where
  | not
  | join (junction : Junction)
  deriving DecidableEq

namespace Operator

def text : Operator → String
  | .not => "NOT"
  | .join junction => junction.text

/-- A greater level binds tighter. -/
def level : Operator → Nat
  | .join .or => 1
  | .join .xor => 2
  | .join .and => 3
  | .not => 4

/-- How tightly the first operator binds relative to the second. -/
def compareLevel (first second : Operator) : Ordering := compare first.level second.level

end Operator

end FacetFilter
