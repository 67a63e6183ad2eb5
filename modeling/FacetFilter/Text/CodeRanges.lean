/-!
# Tables over code points

Properties and mappings of characters are kept as ascending lists of ranges of
code points.  A look-up stops at the first range that begins past its code, so a
character of a low block costs little.
-/

namespace FacetFilter.Text

/-- Whether one of the ascending ranges, each given by its ends, holds `code`. -/
def inRanges (code : Nat) : List (Nat × Nat) → Bool
  | [] => false
  | (first, last) :: rest =>
      if code < first then false
      else if code ≤ last then true
      else inRanges code rest

/-- Every `stride`-th code from `first` to `last` moves by `shift`. -/
structure Shift where
  first : Nat
  last : Nat
  stride : Nat
  shift : Int
  deriving DecidableEq

/-- Moves a code by the one of the ascending ranges that holds it. -/
def shiftCode (code : Nat) : List Shift → Nat
  | [] => code
  | range :: rest =>
      if code < range.first then code
      else if code ≤ range.last then
        if (code - range.first) % range.stride = 0 then (code + range.shift).toNat else code
      else shiftCode code rest

end FacetFilter.Text
