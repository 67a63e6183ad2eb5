import FacetFilter.Decimal.Shortest

/-!
# Layouts of doubles

The digits of a double are fixed by its value; where the point stands, when an
exponent is written and how the special values are spelt is a matter of the
format.  A layout holds those decisions.
-/

namespace FacetFilter.Decimal

structure Layout where
  tie : Tie
  /-- Powers of ten of the first digit for which no exponent is written. -/
  positional : Int → Bool
  /-- Whether a whole number written without an exponent ends in `.0`. -/
  pointZero : Bool
  nan : String
  infinite : Bool → String

namespace Layout

/-- Plain text: no exponent and no `.0` ever. -/
def plain : Layout where
  tie := .upward
  positional := fun _ => true
  pointZero := false
  nan := "NaN"
  infinite := fun negative => if negative then "-inf" else "inf"

/-- Documents: an exponent below `10 ^ (-5)` and from `10 ^ 16` on, and `null` for a value that
has no digits. -/
def document : Layout where
  tie := .toEven
  positional := fun power => -5 ≤ power && power < 16
  pointZero := true
  nan := "null"
  infinite := fun _ => "null"

def positionalText (pointZero : Bool) (digits : List Char) : Int → List Char
  | .negSucc below => '0' :: '.' :: (List.replicate below '0' ++ digits)
  | .ofNat power =>
      let width := power + 1
      if digits.length ≤ width then
        digits ++ List.replicate (width - digits.length) '0' ++
          (if pointZero then ['.', '0'] else [])
      else digits.take width ++ '.' :: digits.drop width

def exponentText (digits : List Char) (power : Int) : List Char :=
  digits.take 1 ++ (if digits.length ≤ 1 then [] else '.' :: digits.drop 1) ++
    'e' :: (if power < 0 then '-' else '+') :: Nat.toDigits 10 power.natAbs

def digitsText (layout : Layout) (digits : Digits) : List Char :=
  if layout.positional digits.exponent then
    positionalText layout.pointZero digits.digits digits.exponent
  else exponentText digits.digits digits.exponent

def magnitudeText (layout : Layout) (units : Nat) : List Char :=
  layout.digitsText (if units = 0 then .zero else shortest layout.tie units)

/-- The text of a double under a layout. -/
def render (layout : Layout) : Binary64 → String
  | .nan => layout.nan
  | .infinite negative => layout.infinite negative
  | .finite negative units _ =>
      String.ofList ((if negative then ['-'] else []) ++ layout.magnitudeText units)

end Layout

end FacetFilter.Decimal
