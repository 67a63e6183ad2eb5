import FacetFilter.Decimal.Layout

/-!
# Document values

A document is a JSON value with its members in the order in which they were
written, repeated names included.  A number is whole where it is written without
point and exponent and fits 64 bits, signed or unsigned, and a double otherwise.
-/

namespace FacetFilter

inductive Json.Number where
  | whole (value : Int)
  | double (value : Binary64)
  deriving DecidableEq

inductive Json where
  | null
  | bool (value : Bool)
  | number (value : Json.Number)
  | string (value : String)
  | array (items : List Json)
  | object (members : List (String × Json))

namespace Json

instance : Inhabited Json := ⟨null⟩

/-- Documents nest at most so many arrays and objects. -/
def maxDepth : Nat := 127

namespace Number

def ofNat (value : Nat) : Number := .whole value

def toBinary64 : Number → Binary64
  | .whole value => .ofInt value
  | .double value => value

/-- Whether the magnitude fits the unsigned or, below zero, the signed 64-bit range.  A negative
zero is left to the doubles, which keep its sign. -/
def fitsWhole (negative : Bool) (magnitude : Nat) : Bool :=
  if negative then 0 < magnitude && magnitude ≤ UInt64.size / 2 else magnitude < UInt64.size

/-- The number that a literal denotes; `none` where a double cannot hold it. -/
def ofLiteral? (literal : Decimal.Literal) : Option Number :=
  if literal.fraction.isEmpty && literal.exponent.isEmpty &&
      fitsWhole literal.negative literal.significand then
    some (.whole (if literal.negative then -literal.significand else literal.significand))
  else if literal.value.isFinite then some (.double literal.value)
  else none

def render : Number → String
  | .whole value => toString value
  | .double value => Decimal.Layout.document.render value

end Number

end Json

end FacetFilter
