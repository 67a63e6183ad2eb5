import FacetFilter.Decimal.Reader

/-!
# The fewest digits that read back

A positive magnitude is written with the fewest decimal digits whose nearest
double it is.  Each digit count has two neighbours of the value on its grid; the
first count for which one of them reads back wins, and of two the nearer one.
-/

namespace FacetFilter.Decimal

/-- What decides between two neighbours that are equally near. -/
inductive Tie where
  | upward
  | toEven
  deriving DecidableEq

/-- Digits without trailing zeros, the first of them at `10 ^ exponent`. -/
structure Digits where
  digits : List Char
  exponent : Int
  deriving DecidableEq

namespace Digits

def zero : Digits := ⟨['0'], 0⟩

/-- The digits of `significand * 10 ^ scale`. -/
def ofScaled (significand : Nat) (scale : Int) : Digits :=
  let written := Nat.toDigits 10 significand
  ⟨(written.reverse.dropWhile (· == '0')).reverse, scale + written.length - 1⟩

end Digits

/-- The magnitude over `10 ^ scale` as a quotient of natural numbers. -/
def quotientAt (units : Nat) : Int → Nat × Nat
  | .ofNat power => (units, powerOfTen power * unitsPerOne)
  | .negSucc power => (units * powerOfTen (power + 1), unitsPerOne)

def isBelowPower (units : Nat) (power : Int) : Bool :=
  let (num, den) := quotientAt units power
  num < den

/-- The power of ten of the first digit.  The estimate from the bit length, with 0.30103 for
the decimal logarithm of two, is off by one at most. -/
def leadingPower (units : Nat) : Int :=
  let estimate := ((units.log2 : Int) - 1074) * 30103 / 100000
  if isBelowPower units estimate then estimate - 1
  else if isBelowPower units (estimate + 1) then estimate
  else estimate + 1

/-- The multiple of `10 ^ scale` nearest to the magnitude, if one of its two neighbours on that
grid reads back. -/
def nearestReadingBack? (tie : Tie) (units : Nat) (scale : Int) : Option Nat :=
  let (num, den) := quotientAt units scale
  let low := num / den
  let rest := num % den
  match roundDecimal low scale == units, roundDecimal (low + 1) scale == units with
  | true, true =>
      let takesLow :=
        2 * rest < den || (2 * rest == den && tie == .toEven && low % 2 == 0)
      some (if takesLow then low else low + 1)
  | true, false => some low
  | false, true => some (low + 1)
  | false, false => none

/-- The shortest digits of a positive magnitude.  Seventeen digits always suffice; were none of
them to read back, the exact expansion would. -/
def shortest (tie : Tie) (units : Nat) : Digits :=
  let leading := leadingPower units
  let found := (List.range 17).findSome? fun (more : Nat) =>
    let scale := leading - more
    (nearestReadingBack? tie units scale).map (Digits.ofScaled · scale)
  found.getD (Digits.ofScaled (units * Nat.pow 5 1074) (-1074))

end FacetFilter.Decimal
