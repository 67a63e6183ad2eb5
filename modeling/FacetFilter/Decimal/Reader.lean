import FacetFilter.Binary64

/-!
# Reading doubles from text

A number in plain text is a sign, decimal digits with a point anywhere among
them, and an exponent; or a word for infinity or for what is not a number.  The
value is the double nearest to what is written.
-/

namespace FacetFilter.Decimal

def isDigit (char : Char) : Bool := '0' ≤ char && char ≤ '9'

/-- The number that a run of digits denotes. -/
def digitsValue (digits : List Char) : Nat :=
  digits.foldl (fun value digit => value * 10 + (digit.toNat - 48)) 0

/-- The parts of a written number; a part that is not written is empty. -/
structure Literal where
  negative : Bool
  whole : List Char
  fraction : List Char
  exponentNegative : Bool
  exponent : List Char
  deriving DecidableEq

namespace Literal

def significand (literal : Literal) : Nat := digitsValue (literal.whole ++ literal.fraction)

def power (literal : Literal) : Int :=
  (if literal.exponentNegative then -(digitsValue literal.exponent : Int)
    else digitsValue literal.exponent) - literal.fraction.length

def value (literal : Literal) : Binary64 :=
  Binary64.ofDecimal literal.negative literal.significand literal.power

end Literal

/-- Splits a leading sign off; absent means positive. -/
def splitSign : List Char → Bool × List Char
  | '-' :: rest => (true, rest)
  | '+' :: rest => (false, rest)
  | text => (false, text)

/-- The point and the digits after it, or nothing where no point is written. -/
def splitFraction : List Char → List Char × List Char
  | '.' :: rest => rest.span isDigit
  | text => ([], text)

/-- The exponent that ends a number; `none` where something else follows. -/
def readExponent? : List Char → Option (Bool × List Char)
  | [] => some (false, [])
  | mark :: rest =>
      let (negative, rest) := splitSign rest
      if (mark == 'e' || mark == 'E') && !rest.isEmpty && rest.all isDigit then
        some (negative, rest)
      else none

def readDigits? (negative : Bool) (text : List Char) : Option Binary64 := do
  let (whole, rest) := text.span isDigit
  let (fraction, rest) := splitFraction rest
  let (exponentNegative, exponent) ← readExponent? rest
  if whole.isEmpty && fraction.isEmpty then none
  else some (Literal.value ⟨negative, whole, fraction, exponentNegative, exponent⟩)

/-- The words are read without regard to ASCII case. -/
def readWord? (negative : Bool) (text : List Char) : Option Binary64 :=
  match String.ofList (text.map Char.toLower) with
  | "inf" | "infinity" => some (.infinite negative)
  | "nan" => some .nan
  | _ => none

/-- The double that a text denotes; blanks are not skipped. -/
def read? (text : String) : Option Binary64 :=
  let (negative, rest) := splitSign text.toList
  readDigits? negative rest <|> readWord? negative rest

end FacetFilter.Decimal
