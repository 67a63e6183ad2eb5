import FacetFilter.Decimal.Layout
import FacetFilter.Proofs.Decimal.Shortest

/-!
# Doubles written and read

What a layout writes for a finite double is a number: its parts are nothing but
digits, no zero stands in front, and the double nearest to what it denotes is the
double that was written, its sign included.
-/

namespace FacetFilter.Decimal

namespace Literal

def signChars (negative : Bool) : List Char := if negative then ['-'] else []

def fractionChars (fraction : List Char) : List Char :=
  if fraction.isEmpty then [] else '.' :: fraction

def exponentChars (negative : Bool) (exponent : List Char) : List Char :=
  if exponent.isEmpty then [] else 'e' :: (if negative then '-' else '+') :: exponent

@[simp]
theorem fractionChars_nil : fractionChars [] = [] := rfl

theorem fractionChars_of_ne_nil {fraction : List Char} (hfraction : fraction ≠ []) :
    fractionChars fraction = '.' :: fraction :=
  if_neg (by simpa using hfraction)

@[simp]
theorem exponentChars_nil (negative : Bool) : exponentChars negative [] = [] := rfl

theorem exponentChars_of_ne_nil (negative : Bool) {exponent : List Char}
    (hexponent : exponent ≠ []) :
    exponentChars negative exponent = 'e' :: (if negative then '-' else '+') :: exponent :=
  if_neg (by simpa using hexponent)

/-- The text of a number; the mark of a part that is empty is left out with it. -/
def chars (literal : Literal) : List Char :=
  signChars literal.negative ++ (literal.whole ++ (fractionChars literal.fraction ++
    exponentChars literal.exponentNegative literal.exponent))

/-- The parts are digits, and a whole part of several digits does not begin with zero. -/
structure WellFormed (literal : Literal) : Prop where
  whole_ne_nil : literal.whole ≠ []
  whole : AllDigits literal.whole
  length_whole : literal.whole.head? = some '0' → literal.whole.length = 1
  fraction : AllDigits literal.fraction
  exponent : AllDigits literal.exponent
  exponentNegative_eq_false : literal.exponent = [] → literal.exponentNegative = false

/-- A literal that denotes a magnitude in range has it for its value. -/
theorem value_eq_finite {literal : Literal} {units : Nat} (hunits : Representable units)
    (hround : roundDecimal literal.significand literal.power = units) :
    literal.value = .finite literal.negative units hunits := by
  subst hround
  rw [value, Binary64.ofDecimal, Binary64.ofUnits, dif_pos hunits.1]

end Literal

namespace Layout

variable {layout : Layout} {negative : Bool} {digits : Digits}

/-- The parts of a number that is written without an exponent. -/
def positionalLiteral (pointZero negative : Bool) (digits : List Char) : Int → Literal
  | .negSucc below => ⟨negative, ['0'], List.replicate below '0' ++ digits, false, []⟩
  | .ofNat power =>
      let width := power + 1
      if digits.length ≤ width then
        ⟨negative, digits ++ List.replicate (width - digits.length) '0',
          if pointZero then ['0'] else [], false, []⟩
      else ⟨negative, digits.take width, digits.drop width, false, []⟩

def exponentLiteral (negative : Bool) (digits : List Char) (power : Int) : Literal :=
  ⟨negative, digits.take 1, digits.drop 1, power < 0, Nat.toDigits 10 power.natAbs⟩

/-- The parts of what a layout writes for a sign and digits. -/
def literal (layout : Layout) (negative : Bool) (digits : Digits) : Literal :=
  if layout.positional digits.exponent then
    positionalLiteral layout.pointZero negative digits.digits digits.exponent
  else exponentLiteral negative digits.digits digits.exponent

theorem negative_literal : (layout.literal negative digits).negative = negative := by
  rw [literal]
  split
  · unfold positionalLiteral
    split
    · rfl
    · dsimp only
      split <;> rfl
  · rfl

theorem chars_positionalLiteral {pointZero : Bool} {digits : List Char} {power : Int}
    (hdigits : digits ≠ []) :
    (positionalLiteral pointZero negative digits power).chars =
      Literal.signChars negative ++ positionalText pointZero digits power := by
  cases power with
  | negSucc below =>
      have hfraction : List.replicate below '0' ++ digits ≠ [] :=
        List.append_ne_nil_of_right_ne_nil _ hdigits
      simp [positionalLiteral, positionalText, Literal.chars,
        Literal.fractionChars_of_ne_nil hfraction]
  | ofNat power =>
      simp only [positionalLiteral, positionalText]
      split
      · cases pointZero with
        | false => simp [Literal.chars]
        | true =>
            simp [Literal.chars, Literal.fractionChars_of_ne_nil (List.cons_ne_nil '0' [])]
      · next hlong =>
        have hfraction : digits.drop (power + 1) ≠ [] := by
          rwa [ne_eq, List.drop_eq_nil_iff]
        simp [Literal.chars, Literal.fractionChars_of_ne_nil hfraction]

theorem chars_exponentLiteral {digits : List Char} {power : Int} :
    (exponentLiteral negative digits power).chars =
      Literal.signChars negative ++ exponentText digits power := by
  have hfraction : Literal.fractionChars (digits.drop 1) =
      if digits.length ≤ 1 then [] else '.' :: digits.drop 1 := by
    simp only [Literal.fractionChars, List.isEmpty_iff, List.drop_eq_nil_iff]
  have hexponent := Literal.exponentChars_of_ne_nil (power < 0)
    (Nat.toDigits_ne_nil : Nat.toDigits 10 power.natAbs ≠ [])
  rw [exponentLiteral, Literal.chars, hfraction, hexponent, exponentText]
  simp

theorem chars_literal (hdigits : digits.digits ≠ []) :
    (layout.literal negative digits).chars =
      Literal.signChars negative ++ layout.digitsText digits := by
  rw [literal, digitsText]
  split
  · exact chars_positionalLiteral hdigits
  · exact chars_exponentLiteral

theorem wellFormed_positionalLiteral (pointZero negative : Bool) (hdigits : digits.Normal) :
    (positionalLiteral pointZero negative digits.digits digits.exponent).WellFormed := by
  cases hexponent : digits.exponent with
  | negSucc below =>
      exact {
        whole_ne_nil := List.cons_ne_nil _ _
        whole := allDigits_zeros 1
        length_whole := fun _ => rfl
        fraction := (allDigits_zeros below).append hdigits.allDigits
        exponent := allDigits_zeros 0
        exponentNegative_eq_false := fun _ => rfl }
  | ofNat power =>
      simp only [positionalLiteral]
      split
      · exact {
          whole_ne_nil := by simp [hdigits.ne_nil]
          whole := hdigits.allDigits.append (allDigits_zeros _)
          length_whole := by
            intro hhead
            rw [List.head?_append_of_ne_nil _ hdigits.ne_nil] at hhead
            have hzero := hdigits.eq_zero_of_head hhead
            subst hzero
            cases hexponent
            rfl
          fraction := by
            cases pointZero
            · exact allDigits_zeros 0
            · exact allDigits_zeros 1
          exponent := allDigits_zeros 0
          exponentNegative_eq_false := fun _ => rfl }
      · next hlong =>
        exact {
          whole_ne_nil := by simp [hdigits.ne_nil]
          whole := hdigits.allDigits.take _
          length_whole := by
            intro hhead
            rw [List.head?_take, if_neg (Nat.succ_ne_zero power)] at hhead
            have hzero := hdigits.eq_zero_of_head hhead
            subst hzero
            exact absurd (Nat.le_add_left 1 power) hlong
          fraction := hdigits.allDigits.drop _
          exponent := allDigits_zeros 0
          exponentNegative_eq_false := fun _ => rfl }

theorem wellFormed_exponentLiteral (negative : Bool) (power : Int) (hdigits : digits.Normal) :
    (exponentLiteral negative digits.digits power).WellFormed where
  whole_ne_nil := by simp [exponentLiteral, hdigits.ne_nil]
  whole := hdigits.allDigits.take 1
  length_whole := by
    intro _
    have hlength := List.length_pos_iff.mpr hdigits.ne_nil
    rw [exponentLiteral, List.length_take]
    omega
  fraction := hdigits.allDigits.drop 1
  exponent := allDigits_toDigits _
  exponentNegative_eq_false := fun hnil => absurd hnil Nat.toDigits_ne_nil

theorem wellFormed_literal (hdigits : digits.Normal) :
    (layout.literal negative digits).WellFormed := by
  rw [literal]
  split
  · exact wellFormed_positionalLiteral layout.pointZero negative hdigits
  · exact wellFormed_exponentLiteral negative digits.exponent hdigits

theorem exists_zeros_positionalLiteral (pointZero negative : Bool) (digits : Digits) :
    ∃ zeros,
      (positionalLiteral pointZero negative digits.digits digits.exponent).significand =
          digits.significand * powerOfTen zeros ∧
        (positionalLiteral pointZero negative digits.digits digits.exponent).power + zeros =
          digits.scale := by
  cases hexponent : digits.exponent with
  | negSucc below =>
      refine ⟨0, ?_, ?_⟩
      · rw [powerOfTen_zero, Nat.mul_one]
        exact digitsValue_zeros_append (below + 1) digits.digits
      · simp [positionalLiteral, Literal.power, Digits.scale, hexponent, digitsValue]
        omega
  | ofNat power =>
      simp only [positionalLiteral]
      split
      · next hshort =>
        cases pointZero with
        | false =>
            refine ⟨power + 1 - digits.digits.length, ?_, ?_⟩
            · simp [Literal.significand, Digits.significand, digitsValue_append_zeros]
            · simp [Literal.power, Digits.scale, hexponent, digitsValue]
              omega
        | true =>
            refine ⟨power + 1 - digits.digits.length + 1, ?_, ?_⟩
            · rw [powerOfTen_add, ← Nat.mul_assoc, Digits.significand, ← digitsValue_append_zeros,
                ← digitsValue_append_zeros]
              rfl
            · simp [Literal.power, Digits.scale, hexponent, digitsValue]
              omega
      · refine ⟨0, ?_, ?_⟩
        · rw [powerOfTen_zero, Nat.mul_one]
          exact congrArg digitsValue (List.take_append_drop (power + 1) digits.digits)
        · simp [Literal.power, Digits.scale, hexponent, digitsValue]
          omega

/-- A layout moves the point and may write zeros behind the digits, no more. -/
theorem exists_zeros_literal (layout : Layout) (negative : Bool) (hdigits : digits.Normal) :
    ∃ zeros, (layout.literal negative digits).significand = digits.significand * powerOfTen zeros ∧
      (layout.literal negative digits).power + zeros = digits.scale := by
  rw [literal]
  split
  · exact exists_zeros_positionalLiteral layout.pointZero negative digits
  · refine ⟨0, ?_, ?_⟩
    · rw [powerOfTen_zero, Nat.mul_one]
      exact congrArg digitsValue (List.take_append_drop 1 digits.digits)
    · have hlength := List.length_pos_iff.mpr hdigits.ne_nil
      simp only [exponentLiteral, Literal.power, Digits.scale, digitsValue_toDigits,
        List.length_drop, decide_eq_true_eq]
      split <;> omega

/-- A layout that ends whole numbers in `.0` tells every double from a whole number. -/
theorem fraction_ne_nil_or_exponent_ne_nil (negative : Bool) (hpoint : layout.pointZero = true)
    (hdigits : digits.digits ≠ []) :
    (layout.literal negative digits).fraction ≠ [] ∨
      (layout.literal negative digits).exponent ≠ [] := by
  rw [literal]
  split
  · left
    cases digits.exponent with
    | negSucc below => exact List.append_ne_nil_of_right_ne_nil _ hdigits
    | ofNat power =>
        simp only [positionalLiteral, hpoint, if_true]
        split
        · exact List.cons_ne_nil _ _
        · next hlong => rwa [ne_eq, List.drop_eq_nil_iff]
  · right
    exact Nat.toDigits_ne_nil

/-! ## Doubles -/

/-- The digits of a magnitude. -/
def magnitudeDigits (layout : Layout) (units : Nat) : Digits :=
  if units = 0 then .zero else shortest layout.tie units

theorem normal_magnitudeDigits (layout : Layout) {units : Nat} (hunits : Representable units) :
    (layout.magnitudeDigits units).Normal := by
  rw [magnitudeDigits]
  split
  · exact Digits.normal_zero
  · next hpos => exact normal_shortest layout.tie hunits hpos

theorem roundDecimal_magnitudeDigits (layout : Layout) {units : Nat} (hunits : Representable units) :
    roundDecimal (layout.magnitudeDigits units).significand (layout.magnitudeDigits units).scale =
      units := by
  rw [magnitudeDigits]
  split
  · next hzero => rw [hzero]; rfl
  · exact roundDecimal_shortest layout.tie hunits

/-- The parts of what a layout writes for a finite double. -/
def doubleLiteral (layout : Layout) (negative : Bool) (units : Nat) : Literal :=
  layout.literal negative (layout.magnitudeDigits units)

theorem render_finite {units : Nat} (hunits : Representable units) :
    layout.render (.finite negative units hunits) =
      String.ofList (layout.doubleLiteral negative units).chars := by
  rw [doubleLiteral, chars_literal (normal_magnitudeDigits layout hunits).ne_nil]
  rfl

theorem wellFormed_doubleLiteral {units : Nat} (hunits : Representable units) :
    (layout.doubleLiteral negative units).WellFormed :=
  wellFormed_literal (normal_magnitudeDigits layout hunits)

/-- What a layout writes for a finite double has the double for its value. -/
theorem value_doubleLiteral (layout : Layout) (negative : Bool) {units : Nat}
    (hunits : Representable units) :
    (layout.doubleLiteral negative units).value = .finite negative units hunits := by
  obtain ⟨zeros, hsignificand, hpower⟩ :=
    exists_zeros_literal layout negative (normal_magnitudeDigits layout hunits)
  have hround := roundDecimal_magnitudeDigits layout hunits
  rw [← hpower, ← roundDecimal_mul_powerOfTen_eq_iff hunits.1, ← hsignificand] at hround
  rw [doubleLiteral, Literal.value_eq_finite hunits hround]
  exact congrArg (Binary64.finite · units hunits) negative_literal

/-- The least double has one digit, though it has 751 of them in full. -/
example : document.render (.ofDecimal false 5 (-324)) = "5e-324" := by decide +kernel

end Layout

end FacetFilter.Decimal
