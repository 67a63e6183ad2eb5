import Mathlib.Data.List.TakeDrop
import FacetFilter.Json.Written
import FacetFilter.Proofs.Decimal.Layout

/-!
# Numbers of a document

The scanner takes the text of a number apart into what it was put together from,
up to a character that ends values.  A whole number that fits, and every finite
double, is denoted by the text that is written for it.
-/

namespace FacetFilter.Json

open Decimal (AllDigits Literal isDigit)

/-- A text that begins with what may stand behind a value, if with anything. -/
def EndsValue (rest : List Char) : Prop :=
  ∀ char, rest.head? = some char → char = ',' ∨ char = ']' ∨ char = '\x7d'

theorem EndsValue.nil : EndsValue [] := by
  intro char hhead
  cases hhead

theorem EndsValue.cons {char : Char} (rest : List Char)
    (hchar : char = ',' ∨ char = ']' ∨ char = '\x7d') : EndsValue (char :: rest) := by
  intro head hhead
  cases hhead
  exact hchar

/-- A text that does not go on with a digit. -/
def EndsDigits (rest : List Char) : Prop := ∀ char, rest.head? = some char → isDigit char = false

variable {rest : List Char}

theorem EndsValue.endsDigits (hrest : EndsValue rest) : EndsDigits rest := by
  intro char hhead
  rcases hrest char hhead with rfl | rfl | rfl <;> rfl

theorem EndsDigits.exponentChars_append (hrest : EndsDigits rest) (negative : Bool)
    (exponent : List Char) : EndsDigits (Literal.exponentChars negative exponent ++ rest) := by
  cases exponent with
  | nil => exact hrest
  | cons digit digits =>
      intro char hhead
      cases hhead
      rfl

theorem EndsDigits.fractionChars_append (hrest : EndsDigits rest) (fraction : List Char) :
    EndsDigits (Literal.fractionChars fraction ++ rest) := by
  cases fraction with
  | nil => exact hrest
  | cons digit digits =>
      intro char hhead
      cases hhead
      rfl

theorem EndsValue.head?_exponentChars_append_ne_point (hrest : EndsValue rest) (negative : Bool)
    (exponent : List Char) :
    (Literal.exponentChars negative exponent ++ rest).head? ≠ some '.' := by
  intro hhead
  cases exponent with
  | nil => rcases hrest '.' hhead with heq | heq | heq <;> cases heq
  | cons digit digits => cases hhead

namespace Written

/-! ## Scanning -/

theorem span_digits {digits : List Char} (hdigits : AllDigits digits)
    (hrest : EndsDigits rest) : (digits ++ rest).span isDigit = (digits, rest) := by
  rw [List.span_eq_takeWhile_dropWhile, List.takeWhile_append_of_pos hdigits,
    List.dropWhile_append_of_pos hdigits]
  cases rest with
  | nil => simp
  | cons char rest => simp [hrest char rfl]

theorem scanDigits?_append {digits : List Char} (hne : digits ≠ [])
    (hdigits : AllDigits digits) (hrest : EndsDigits rest) :
    scanDigits? (digits ++ rest) = some (digits, rest) := by
  rw [scanDigits?, span_digits hdigits hrest]
  cases digits with
  | nil => exact absurd rfl hne
  | cons => rfl

theorem scanWhole?_append {whole : List Char} (hne : whole ≠ []) (hwhole : AllDigits whole)
    (hlength : whole.head? = some '0' → whole.length = 1) (hrest : EndsDigits rest) :
    scanWhole? (whole ++ rest) = some (whole, rest) := by
  rw [scanWhole?, scanDigits?_append hne hwhole hrest]
  split
  · next second digits _ heq =>
    cases heq
    exact absurd (hlength rfl) (by simp)
  · rfl

theorem scanFraction?_append {fraction : List Char} (hfraction : AllDigits fraction)
    (hrest : EndsDigits rest) (hpoint : rest.head? ≠ some '.') :
    scanFraction? (Literal.fractionChars fraction ++ rest) = some (fraction, rest) := by
  cases fraction with
  | nil =>
      rw [Literal.fractionChars_nil, List.nil_append]
      unfold scanFraction?
      split
      · exact absurd rfl hpoint
      · rfl
  | cons digit digits =>
      exact scanDigits?_append (List.cons_ne_nil digit digits) hfraction hrest

theorem scanExponent?_append {negative : Bool} {exponent : List Char}
    (hexponent : AllDigits exponent) (hnegative : exponent = [] → negative = false)
    (hrest : EndsValue rest) :
    scanExponent? (Literal.exponentChars negative exponent ++ rest) =
      some (negative, exponent, rest) := by
  cases exponent with
  | nil =>
      rw [Literal.exponentChars_nil, List.nil_append, hnegative rfl]
      cases rest with
      | nil => rfl
      | cons char rest => rcases hrest char rfl with rfl | rfl | rfl <;> rfl
  | cons digit digits =>
      have hdigits : scanDigits? (digit :: (digits ++ rest)) = some (digit :: digits, rest) :=
        scanDigits?_append (List.cons_ne_nil digit digits) hexponent hrest.endsDigits
      rw [Literal.exponentChars_of_ne_nil negative (List.cons_ne_nil digit digits)]
      cases negative <;> simp [scanExponent?, Decimal.splitSign, hdigits]

/-- The text of a number is taken apart again. -/
theorem scanNumber?_append {literal : Literal} (hliteral : literal.WellFormed)
    (hrest : EndsValue rest) : scanNumber? (literal.chars ++ rest) = some (literal, rest) := by
  have hexponentEnds := hrest.endsDigits.exponentChars_append literal.exponentNegative
    literal.exponent
  have hexponent := scanExponent?_append hliteral.exponent hliteral.exponentNegative_eq_false hrest
  have hfraction := scanFraction?_append hliteral.fraction hexponentEnds
    (hrest.head?_exponentChars_append_ne_point literal.exponentNegative literal.exponent)
  have hwhole := scanWhole?_append hliteral.whole_ne_nil hliteral.whole hliteral.length_whole
    (hexponentEnds.fractionChars_append literal.fraction)
  simp only [Literal.chars, List.append_assoc]
  unfold scanNumber?
  split
  next negative text hsign =>
    -- What begins with a digit has no sign in front.
    have hsplit : negative = literal.negative ∧ text = literal.whole ++
        (Literal.fractionChars literal.fraction ++
          (Literal.exponentChars literal.exponentNegative literal.exponent ++ rest)) := by
      cases hnegative : literal.negative with
      | true =>
          rw [hnegative] at hsign
          cases hsign
          exact ⟨rfl, rfl⟩
      | false =>
          rw [hnegative, Literal.signChars, if_neg Bool.false_ne_true, List.nil_append] at hsign
          split at hsign
          next text heq =>
            obtain ⟨digit, digits, hdigits⟩ := List.exists_cons_of_ne_nil hliteral.whole_ne_nil
            have hdigit := hliteral.whole digit (by rw [hdigits]; exact List.mem_cons_self)
            rw [hdigits] at heq
            cases heq
            cases hdigit
          next =>
            cases hsign
            exact ⟨rfl, rfl⟩
    obtain ⟨rfl, rfl⟩ := hsplit
    simp [hwhole, hfraction, hexponent]

end Written

/-! ## Numbers -/

namespace Number

/-- The numbers that a text stands for: those that are whole within 64 bits, and finite doubles. -/
def IsWritable : Number → Prop
  | .whole value => fitsWhole (value < 0) value.natAbs = true
  | .double value => value.isFinite = true

/-- The parts of the text of a number. -/
def literal : Number → Literal
  | .whole value => ⟨value < 0, Nat.toDigits 10 value.natAbs, [], false, []⟩
  | .double (.finite negative units _) => Decimal.Layout.document.doubleLiteral negative units
  | .double _ => ⟨false, [], [], false, []⟩

theorem toList_render {number : Number} (hwritable : number.IsWritable) :
    number.render.toList = number.literal.chars := by
  cases number with
  | whole value =>
      cases value with
      | ofNat magnitude =>
          change (toString magnitude).toList = _
          rw [Nat.toString_eq_ofList_toDigits, String.toList_ofList]
          simp [literal, Literal.chars, Literal.signChars]
      | negSucc below =>
          change ("-" ++ toString (below + 1)).toList = _
          rw [Nat.toString_eq_ofList_toDigits, String.toList_append, String.toList_ofList]
          simp [literal, Literal.chars, Literal.signChars]
  | double value =>
      cases value with
      | nan => cases hwritable
      | infinite negative => cases hwritable
      | finite negative units hunits =>
          rw [render, Decimal.Layout.render_finite, String.toList_ofList]
          rfl

theorem wellFormed_literal {number : Number} (hwritable : number.IsWritable) :
    number.literal.WellFormed := by
  cases number with
  | whole value =>
      exact {
        whole_ne_nil := Nat.toDigits_ne_nil
        whole := Decimal.allDigits_toDigits value.natAbs
        length_whole := by
          intro hhead
          by_cases hzero : value.natAbs = 0
          · change (Nat.toDigits 10 value.natAbs).length = 1
            rw [hzero]
            rfl
          · exact absurd hhead (Decimal.head?_toDigits_ne_zero hzero)
        fraction := Decimal.allDigits_zeros 0
        exponent := Decimal.allDigits_zeros 0
        exponentNegative_eq_false := fun _ => rfl }
  | double value =>
      cases value with
      | nan => cases hwritable
      | infinite negative => cases hwritable
      | finite negative units hunits => exact Decimal.Layout.wellFormed_doubleLiteral hunits

/-- A literal with a point or an exponent denotes a double. -/
theorem ofLiteral?_eq_double {literal : Literal} {value : Binary64}
    (hparts : literal.fraction ≠ [] ∨ literal.exponent ≠ []) (hvalue : literal.value = value)
    (hfinite : value.isFinite = true) : ofLiteral? literal = some (.double value) := by
  have hwhole : (literal.fraction.isEmpty && literal.exponent.isEmpty) = false := by
    rcases hparts with hfraction | hexponent
    · simp [hfraction]
    · simp [hexponent]
  simp [ofLiteral?, hwhole, hvalue, hfinite]

/-- The literal of a number denotes it. -/
theorem ofLiteral?_literal {number : Number} (hwritable : number.IsWritable) :
    ofLiteral? number.literal = some number := by
  cases number with
  | whole value =>
      have hsignificand : (literal (.whole value)).significand = value.natAbs := by
        rw [literal, Literal.significand, List.append_nil, Decimal.digitsValue_toDigits]
      have hvalue : (if value < 0 then -(value.natAbs : Int) else value.natAbs) = value := by
        split <;> omega
      have hfits : fitsWhole (value < 0) value.natAbs = true := hwritable
      rw [ofLiteral?, hsignificand]
      simp only [literal, List.isEmpty_nil, Bool.true_and, hfits, if_true, decide_eq_true_eq, hvalue]
  | double value =>
      cases value with
      | nan => cases hwritable
      | infinite negative => cases hwritable
      | finite negative units hunits =>
          have hvalue := Decimal.Layout.value_doubleLiteral .document negative hunits
          have hparts := Decimal.Layout.fraction_ne_nil_or_exponent_ne_nil negative
            (rfl : Decimal.Layout.document.pointZero = true)
            (Decimal.Layout.normal_magnitudeDigits .document hunits).ne_nil
          exact ofLiteral?_eq_double hparts hvalue rfl

end Number

end FacetFilter.Json
