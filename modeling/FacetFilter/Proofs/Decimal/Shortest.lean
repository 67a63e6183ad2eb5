import Mathlib.Data.List.DropRight
import FacetFilter.Decimal.Shortest
import FacetFilter.Proofs.Decimal.Rounding

/-!
# The fewest digits read back

Whatever digits are chosen for a double, the double nearest to them is that
double.  The digits have no zero in front, as the formats of numbers ask for.
-/

namespace FacetFilter.Decimal

/-! ## The number that digits denote -/

theorem digitsValue_eq_ofDigitChars (digits : List Char) :
    digitsValue digits = Nat.ofDigitChars 10 digits 0 := by
  rw [Nat.ofDigitChars_eq_foldl, digitsValue]
  simp only [Nat.mul_comm]
  rfl

theorem digitsValue_append (first second : List Char) :
    digitsValue (first ++ second) =
      digitsValue first * powerOfTen second.length + digitsValue second := by
  simp only [digitsValue_eq_ofDigitChars]
  rw [Nat.ofDigitChars_append, Nat.ofDigitChars_eq_ofDigitChars_zero, Nat.mul_comm]
  rfl

theorem digitsValue_zeros (count : Nat) : digitsValue (List.replicate count '0') = 0 := by
  rw [digitsValue_eq_ofDigitChars, Nat.ofDigitChars_replicate_zero, Nat.mul_zero]

theorem digitsValue_append_zeros (digits : List Char) (count : Nat) :
    digitsValue (digits ++ List.replicate count '0') = digitsValue digits * powerOfTen count := by
  rw [digitsValue_append, digitsValue_zeros, List.length_replicate, Nat.add_zero]

theorem digitsValue_zeros_append (count : Nat) (digits : List Char) :
    digitsValue (List.replicate count '0' ++ digits) = digitsValue digits := by
  rw [digitsValue_append, digitsValue_zeros, Nat.zero_mul, Nat.zero_add]

theorem digitsValue_toDigits (value : Nat) : digitsValue (Nat.toDigits 10 value) = value := by
  rw [digitsValue_eq_ofDigitChars, Nat.ofDigitChars_ten_toDigits]

def AllDigits (digits : List Char) : Prop := ∀ char ∈ digits, isDigit char = true

namespace AllDigits

variable {first second : List Char}

theorem append (hfirst : AllDigits first) (hsecond : AllDigits second) :
    AllDigits (first ++ second) :=
  List.forall_mem_append.mpr ⟨hfirst, hsecond⟩

theorem of_append_left (happend : AllDigits (first ++ second)) : AllDigits first :=
  (List.forall_mem_append.mp happend).1

theorem take (hfirst : AllDigits first) (count : Nat) : AllDigits (first.take count) :=
  fun char hmem => hfirst char (List.mem_of_mem_take hmem)

theorem drop (hfirst : AllDigits first) (count : Nat) : AllDigits (first.drop count) :=
  fun char hmem => hfirst char (List.mem_of_mem_drop hmem)

end AllDigits

theorem allDigits_zeros (count : Nat) : AllDigits (List.replicate count '0') := by
  intro char hmem
  rw [List.eq_of_mem_replicate hmem]
  rfl

theorem allDigits_toDigits (value : Nat) : AllDigits (Nat.toDigits 10 value) := by
  intro char hmem
  have hdigit := Nat.isDigit_of_mem_toDigits (by decide) (by decide) hmem
  simpa [isDigit, Char.isDigit, Char.le_def] using hdigit

theorem head?_toDigits_ne_zero {value : Nat} (hvalue : value ≠ 0) :
    (Nat.toDigits 10 value).head? ≠ some '0' := by
  induction value using Nat.strongRecOn with
  | ind value ih =>
    rw [Nat.toDigits_eq_if (by decide)]
    split
    · next hsmall =>
      intro hhead
      have hzero : value.digitChar.toNat = '0'.toNat := congrArg Char.toNat (Option.some.inj hhead)
      rw [Nat.toNat_digitChar_of_lt_ten hsmall] at hzero
      exact hvalue (Nat.add_left_cancel hzero)
    · next hlarge =>
      rw [List.head?_append_of_ne_nil _ Nat.toDigits_ne_nil]
      exact ih (value / 10) (by omega) (by omega)

namespace Digits

def significand (digits : Digits) : Nat := digitsValue digits.digits

/-- The power of ten of the last digit. -/
def scale (digits : Digits) : Int := digits.exponent + 1 - digits.digits.length

/-- Digits in front of which no zero stands, but for zero itself. -/
structure Normal (digits : Digits) : Prop where
  ne_nil : digits.digits ≠ []
  allDigits : AllDigits digits.digits
  eq_zero_of_head : digits.digits.head? = some '0' → digits = zero

theorem normal_zero : zero.Normal where
  ne_nil := List.cons_ne_nil _ _
  allDigits := allDigits_zeros 1
  eq_zero_of_head := fun _ => rfl

/-- Scaled digits are the digits written, up to the zeros that end them. -/
theorem exists_zeros (value : Nat) (power : Int) :
    ∃ zeros, (ofScaled value power).digits ++ List.replicate zeros '0' = Nat.toDigits 10 value ∧
      (ofScaled value power).scale = power + zeros := by
  have hzeros : (Nat.toDigits 10 value).rtakeWhile (· == '0') =
      List.replicate ((Nat.toDigits 10 value).rtakeWhile (· == '0')).length '0' := by
    apply List.eq_replicate_of_mem
    intro char hmem
    have hzero := List.mem_rtakeWhile_imp hmem
    exact eq_of_beq hzero
  have hwritten : (ofScaled value power).digits ++
      (Nat.toDigits 10 value).rtakeWhile (· == '0') = Nat.toDigits 10 value :=
    List.rdropWhile_append_rtakeWhile
  refine ⟨((Nat.toDigits 10 value).rtakeWhile (· == '0')).length, ?_, ?_⟩
  · rw [← hzeros]
    exact hwritten
  · have hlength := congrArg List.length hwritten
    have hexponent : (ofScaled value power).exponent = power + (Nat.toDigits 10 value).length - 1 :=
      rfl
    rw [List.length_append] at hlength
    rw [scale, hexponent]
    omega

theorem normal_ofScaled {value : Nat} (power : Int) (hvalue : value ≠ 0) :
    (ofScaled value power).Normal := by
  obtain ⟨zeros, hwritten, -⟩ := exists_zeros value power
  have hhead := head?_toDigits_ne_zero hvalue
  have hne : (ofScaled value power).digits ≠ [] := by
    intro hnil
    rw [hnil, List.nil_append] at hwritten
    cases zeros with
    | zero => exact Nat.toDigits_ne_nil hwritten.symm
    | succ zeros => exact hhead (by rw [← hwritten]; rfl)
  refine ⟨hne, ?_, ?_⟩
  · have hdigits := allDigits_toDigits value
    rw [← hwritten] at hdigits
    exact hdigits.of_append_left
  · intro hzero
    rw [← hwritten, List.head?_append_of_ne_nil _ hne] at hhead
    exact absurd hzero hhead

/-- Zeros at the end are left out and the power of the last digit makes up for them. -/
theorem roundDecimal_ofScaled {value units : Nat} {power : Int} (hunits : units < unitsBound)
    (hround : roundDecimal value power = units) :
    roundDecimal (ofScaled value power).significand (ofScaled value power).scale = units := by
  obtain ⟨zeros, hwritten, hscale⟩ := exists_zeros value power
  have hvalue : value = (ofScaled value power).significand * powerOfTen zeros := by
    rw [significand, ← digitsValue_append_zeros, hwritten, digitsValue_toDigits]
  rw [hvalue] at hround
  rw [hscale]
  exact (roundDecimal_mul_powerOfTen_eq_iff hunits).mp hround

end Digits

/-! ## The search -/

theorem roundDecimal_of_nearestReadingBack? {tie : Tie} {units value : Nat} {scale : Int}
    (hnearest : nearestReadingBack? tie units scale = some value) :
    roundDecimal value scale = units := by
  unfold nearestReadingBack? at hnearest
  dsimp only at hnearest
  split at hnearest
  · next hlow hhigh =>
    have hchoice := Option.some.inj hnearest
    split at hchoice
    · rw [← hchoice]
      exact eq_of_beq hlow
    · rw [← hchoice]
      exact eq_of_beq hhigh
  · next hlow _ =>
    rw [← Option.some.inj hnearest]
    exact eq_of_beq hlow
  · next _ hhigh =>
    rw [← Option.some.inj hnearest]
    exact eq_of_beq hhigh
  · cases hnearest

/-- The digits of a positive double come from a decimal that reads back. -/
theorem exists_shortest_eq (tie : Tie) {units : Nat} (hunits : Representable units) :
    ∃ value power, shortest tie units = .ofScaled value power ∧
      roundDecimal value power = units := by
  simp only [shortest]
  cases hfound : (List.range 17).findSome? fun (more : Nat) =>
      (nearestReadingBack? tie units (leadingPower units - more)).map
        (Digits.ofScaled · (leadingPower units - more)) with
  | none =>
      exact ⟨units * Nat.pow 5 1074, -1074, rfl, roundDecimal_expansion hunits⟩
  | some digits =>
      obtain ⟨more, -, hmore⟩ := List.exists_of_findSome?_eq_some hfound
      obtain ⟨value, hnearest, rfl⟩ := Option.map_eq_some_iff.mp hmore
      exact ⟨value, _, rfl, roundDecimal_of_nearestReadingBack? hnearest⟩

theorem normal_shortest (tie : Tie) {units : Nat} (hunits : Representable units)
    (hpos : units ≠ 0) : (shortest tie units).Normal := by
  obtain ⟨value, power, hshortest, hround⟩ := exists_shortest_eq tie hunits
  rw [hshortest]
  apply Digits.normal_ofScaled
  intro hvalue
  rw [hvalue, roundDecimal_zero] at hround
  exact hpos hround.symm

/-- The double nearest to its shortest digits is the double itself. -/
theorem roundDecimal_shortest (tie : Tie) {units : Nat} (hunits : Representable units) :
    roundDecimal (shortest tie units).significand (shortest tie units).scale = units := by
  obtain ⟨value, power, hshortest, hround⟩ := exists_shortest_eq tie hunits
  rw [hshortest]
  exact Digits.roundDecimal_ofScaled hunits.1 hround

end FacetFilter.Decimal
