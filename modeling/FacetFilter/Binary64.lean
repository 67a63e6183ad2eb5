/-!
# Doubles as exact magnitudes

A finite double is a sign and a whole number of steps of `2 ^ (-1074)`.  Every
comparison and every rounding is then a question about natural numbers, and the
two zeros, the infinities and the value that is not a number are constructors.
-/

namespace FacetFilter

def powerOfTwo (exponent : Nat) : Nat := Nat.pow 2 exponent

def powerOfTen (exponent : Nat) : Nat := Nat.pow 10 exponent

/-- The steps in one: a magnitude of `units` has the value `units / unitsPerOne`. -/
def unitsPerOne : Nat := powerOfTwo 1074

/-- The first magnitude beyond the greatest finite double. -/
def unitsBound : Nat := powerOfTwo 2098

/-- A double keeps at most 53 significant bits. -/
def Representable (units : Nat) : Prop :=
  units < unitsBound ∧ powerOfTwo (units.log2 + 1 - 53) ∣ units

theorem powerOfTwo_pos (exponent : Nat) : 0 < powerOfTwo exponent := Nat.two_pow_pos exponent

theorem powerOfTwo_add (first second : Nat) :
    powerOfTwo (first + second) = powerOfTwo first * powerOfTwo second :=
  Nat.pow_add 2 first second

theorem powerOfTwo_dvd {first second : Nat} (hle : first ≤ second) :
    powerOfTwo first ∣ powerOfTwo second :=
  Nat.pow_dvd_pow 2 hle

theorem powerOfTwo_le {first second : Nat} (hle : first ≤ second) :
    powerOfTwo first ≤ powerOfTwo second :=
  Nat.pow_le_pow_right (by decide) hle

theorem log2_powerOfTwo (exponent : Nat) : (powerOfTwo exponent).log2 = exponent :=
  Nat.log2_two_pow

theorem lt_powerOfTwo_log2 (value : Nat) : value < powerOfTwo (value.log2 + 1) :=
  Nat.lt_log2_self

theorem log2_lt_of_lt {value exponent : Nat} (hzero : value ≠ 0)
    (hlt : value < powerOfTwo exponent) : value.log2 < exponent :=
  (Nat.log2_lt hzero).mpr hlt

/-! ## Rounding -/

/-- The whole number nearest to `num / den`, an even one at a tie. -/
def roundHalfEven (num den : Nat) : Nat :=
  let quotient := num / den
  let rest := num % den
  if den < 2 * rest ∨ (den = 2 * rest ∧ quotient % 2 = 1) then quotient + 1 else quotient

/-- The magnitude nearest to `num / den` steps when no bound is set on its size. -/
def roundUnits (num den : Nat) : Nat :=
  let dropped := (num / den).log2 + 1 - 53
  roundHalfEven num (den * powerOfTwo dropped) * powerOfTwo dropped

theorem roundHalfEven_le_succ (num den : Nat) : roundHalfEven num den ≤ num / den + 1 := by
  simp only [roundHalfEven]
  split <;> omega

theorem dvd_roundUnits (num den : Nat) :
    powerOfTwo ((roundUnits num den).log2 + 1 - 53) ∣ roundUnits num den := by
  generalize hdropped : (num / den).log2 + 1 - 53 = dropped
  have hsignificand : roundHalfEven num (den * powerOfTwo dropped) ≤ powerOfTwo 53 := by
    refine Nat.le_trans (roundHalfEven_le_succ _ _) (Nat.succ_le_of_lt ?_)
    rw [← Nat.div_div_eq_div_mul]
    refine Nat.div_lt_of_lt_mul ?_
    rw [← powerOfTwo_add]
    exact Nat.lt_of_lt_of_le (lt_powerOfTwo_log2 _) (powerOfTwo_le (by omega))
  have hunits : roundUnits num den =
      roundHalfEven num (den * powerOfTwo dropped) * powerOfTwo dropped := by
    simp only [roundUnits, hdropped]
  generalize roundHalfEven num (den * powerOfTwo dropped) = significand at hsignificand hunits
  rw [hunits]
  by_cases htop : significand = powerOfTwo 53
  · rw [htop, ← powerOfTwo_add, log2_powerOfTwo]
    exact powerOfTwo_dvd (by omega)
  · by_cases hzero : significand = 0
    · simp [hzero]
    · have hlog : (significand * powerOfTwo dropped).log2 < 53 + dropped := by
        refine log2_lt_of_lt (Nat.mul_ne_zero hzero (Nat.ne_of_gt (powerOfTwo_pos dropped))) ?_
        rw [powerOfTwo_add]
        exact Nat.mul_lt_mul_of_pos_right (by omega) (powerOfTwo_pos dropped)
      exact Nat.dvd_mul_left_of_dvd (powerOfTwo_dvd (by omega)) significand

/-- The magnitude nearest to `significand * 10 ^ exponent`.  Beyond `10 ^ 400` and below
`10 ^ (-400)` the answer does not depend on the digits. -/
def roundDecimal (significand : Nat) (exponent : Int) : Nat :=
  if significand = 0 then 0
  else if 400 < exponent then unitsBound
  else if exponent + (significand.log2 + 1) < -400 then 0
  else
    match exponent with
    | .ofNat power => roundUnits (significand * powerOfTen power * unitsPerOne) 1
    | .negSucc power => roundUnits (significand * unitsPerOne) (powerOfTen (power + 1))

theorem dvd_roundDecimal (significand : Nat) (exponent : Int) :
    powerOfTwo ((roundDecimal significand exponent).log2 + 1 - 53) ∣
      roundDecimal significand exponent := by
  unfold roundDecimal
  split
  · exact Nat.dvd_zero _
  split
  · rw [unitsBound, log2_powerOfTwo]
    exact powerOfTwo_dvd (by omega)
  split
  · exact Nat.dvd_zero _
  split
  · exact dvd_roundUnits _ _
  · exact dvd_roundUnits _ _

/-! ## The values -/

inductive Binary64 where
  | nan
  | infinite (negative : Bool)
  | finite (negative : Bool) (units : Nat) (representable : Representable units)
  deriving DecidableEq

namespace Binary64

def zero : Binary64 := .finite false 0 ⟨powerOfTwo_pos 2098, Nat.dvd_zero _⟩

instance : Inhabited Binary64 := ⟨zero⟩

/-- A magnitude with enough trailing zero bits, or infinity where it is out of range. -/
def ofUnits (negative : Bool) (units : Nat)
    (hbits : powerOfTwo (units.log2 + 1 - 53) ∣ units) : Binary64 :=
  if hbound : units < unitsBound then .finite negative units ⟨hbound, hbits⟩
  else .infinite negative

/-- The double nearest to `significand * 10 ^ exponent`. -/
def ofDecimal (negative : Bool) (significand : Nat) (exponent : Int) : Binary64 :=
  ofUnits negative (roundDecimal significand exponent) (dvd_roundDecimal _ _)

def ofInt (value : Int) : Binary64 := ofDecimal (value < 0) value.natAbs 0

def isFinite : Binary64 → Bool
  | .finite _ _ _ => true
  | _ => false

/-- Where a value lies among the steps; an infinity lies beyond every finite value. -/
def position : Binary64 → Option Int
  | .nan => none
  | .infinite negative => some (if negative then -unitsBound else unitsBound)
  | .finite negative units _ => some (if negative then -units else units)

/-- The order of two values; a value that is not a number has none. -/
def compare? (left right : Binary64) : Option Ordering :=
  match left.position, right.position with
  | some first, some second => some (compare first second)
  | _, _ => none

/-- Equality of values: the two zeros are equal, and what is not a number equals nothing. -/
instance : BEq Binary64 := ⟨fun left right => left.compare? right == some .eq⟩

end Binary64

end FacetFilter
