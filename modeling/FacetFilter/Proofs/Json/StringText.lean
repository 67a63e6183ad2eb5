import FacetFilter.Json.Written

/-!
# Strings written and read

A string is read back from its escapes character by character.  What an escape
by code is scanned as stands for its character whatever comes behind it, as no
character that is escaped by code is half of a pair.
-/

namespace FacetFilter.Json

/-! ## Escapes by code -/

theorem hexDigit?_digitChar : ∀ digit < 16, hexDigit? digit.digitChar = some digit := by
  decide

/-- A code below 256 is written with two zeros in front. -/
theorem hexDigits4_of_lt {code : Nat} (hcode : code < 256) :
    hexDigits4 code = ['0', '0', (code / 16).digitChar, (code % 16).digitChar] := by
  by_cases hsmall : code < 16
  · have hquotient : code / 16 = 0 := Nat.div_eq_of_lt hsmall
    have hrest : code % 16 = code := Nat.mod_eq_of_lt hsmall
    rw [hexDigits4, Nat.toDigits_of_lt_base hsmall, hquotient, hrest]
    rfl
  · have hquotient : code / 16 < 16 := Nat.div_lt_of_lt_mul hcode
    rw [hexDigits4, Nat.toDigits_of_base_le (by decide) (Nat.le_of_not_lt hsmall),
      Nat.toDigits_of_lt_base hquotient]
    rfl

theorem codeUnit?_hexDigits4 {code : Nat} (hcode : code < 256) :
    codeUnit? '0' '0' (code / 16).digitChar (code % 16).digitChar = some (.code code) := by
  have hfirst := hexDigit?_digitChar (code / 16) (Nat.div_lt_of_lt_mul hcode)
  have hsecond := hexDigit?_digitChar (code % 16) (Nat.mod_lt code (by decide))
  have hzero : hexDigit? '0' = some 0 := by decide
  simp [codeUnit?, hfirst, hsecond, hzero]
  omega

/-! ## Characters -/

/-- A unit that is joined to a character of its own. -/
def StringUnit.StandsFor (unit : StringUnit) (char : Char) : Prop :=
  ∀ units, joinUnits? (unit :: units) = (char :: ·) <$> joinUnits? units

theorem StringUnit.standsFor_char (char : Char) : StandsFor (.char char) char := fun _ => rfl

/-- A control stands outside the codes that come in pairs. -/
theorem StringUnit.standsFor_code {char : Char} (hcontrol : char < ' ') :
    StandsFor (.code char.toNat) char := by
  have hcode : char.toNat < 32 := hcontrol
  have hleading : isLeading char.toNat = false := by
    simp [isLeading]
    omega
  have htrailing : isTrailing char.toNat = false := by
    simp [isTrailing]
    omega
  intro units
  cases units with
  | nil => simp [joinUnits?, hleading, htrailing]
  | cons unit units => cases unit <;> simp [joinUnits?, hleading, htrailing]

variable {rest left : List Char} {units : List StringUnit}

theorem scanString?_shortEscape {letter char : Char} (hletter : shortEscape? letter = some char)
    (hscan : scanString? rest = some (units, left)) :
    scanString? ('\\' :: letter :: rest) = some (.char char :: units, left) := by
  have hcode : letter ≠ 'u' := by
    intro heq
    rw [heq] at hletter
    cases hletter
  simp [scanString?, hcode, hletter, hscan]

theorem scanString?_codeEscape {code : Nat} (hcode : code < 256)
    (hscan : scanString? rest = some (units, left)) :
    scanString? ('\\' :: 'u' :: (hexDigits4 code ++ rest)) = some (.code code :: units, left) := by
  rw [hexDigits4_of_lt hcode]
  simp [scanString?, codeUnit?_hexDigits4 hcode, hscan]

theorem scanString?_plain {char : Char} (hquote : char ≠ '"') (hslash : char ≠ '\\')
    (hcontrol : ¬char < ' ') (hscan : scanString? rest = some (units, left)) :
    scanString? (char :: rest) = some (.char char :: units, left) := by
  simp [scanString?, hslash, hcontrol, hscan]

/-- A character is read back from how it is written, whatever follows. -/
theorem exists_scanString?_escapeChar (char : Char) :
    ∃ unit : StringUnit, unit.StandsFor char ∧ ∀ rest units left,
      scanString? rest = some (units, left) →
        scanString? (escapeChar char ++ rest) = some (unit :: units, left) := by
  unfold escapeChar
  split
  case h_8 hquote hslash _ _ _ _ _ =>
    split
    · next hcontrol =>
      refine ⟨_, StringUnit.standsFor_code hcontrol, fun rest units left hscan => ?_⟩
      exact scanString?_codeEscape (Nat.lt_trans hcontrol (by decide)) hscan
    · next hcontrol =>
      refine ⟨_, StringUnit.standsFor_char char, fun rest units left hscan => ?_⟩
      exact scanString?_plain hquote hslash hcontrol hscan
  all_goals
    refine ⟨_, StringUnit.standsFor_char _, fun rest units left hscan => ?_⟩
    exact scanString?_shortEscape rfl hscan

/-! ## Texts -/

theorem exists_scanString?_escaped (text rest : List Char) :
    ∃ units, scanString? (text.flatMap escapeChar ++ '"' :: rest) = some (units, rest) ∧
      joinUnits? units = some text := by
  induction text with
  | nil => exact ⟨[], rfl, rfl⟩
  | cons char text ih =>
      obtain ⟨units, hscan, hjoin⟩ := ih
      obtain ⟨unit, hunit, hchar⟩ := exists_scanString?_escapeChar char
      refine ⟨unit :: units, ?_, ?_⟩
      · rw [List.flatMap_cons, List.append_assoc]
        exact hchar _ _ _ hscan
      · rw [hunit, hjoin]
        rfl

/-- What stands between the quotes of a written text is scanned up to its end, and denotes it. -/
theorem exists_scanString?_stringChars (text : String) (rest : List Char) :
    ∃ units, scanString? (text.toList.flatMap escapeChar ++ '"' :: rest) = some (units, rest) ∧
      Written.ofUnits units = some text := by
  obtain ⟨units, hscan, hjoin⟩ := exists_scanString?_escaped text.toList rest
  refine ⟨units, hscan, ?_⟩
  rw [Written.ofUnits, hjoin, Option.map_some, String.ofList_toList]

end FacetFilter.Json
