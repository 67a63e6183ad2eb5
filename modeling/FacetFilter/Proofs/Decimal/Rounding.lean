import FacetFilter.Binary64

/-!
# Rounding decimals

A decimal is rounded by its value alone.  Zeros behind its digits change nothing
where the exponent makes up for them, and the two shortcuts for exponents far out
of range give what the rounding would.
-/

namespace FacetFilter

variable {num den scale : Nat}

/-! ## To whole numbers -/

theorem le_roundHalfEven (num den : Nat) : num / den ≤ roundHalfEven num den := by
  simp only [roundHalfEven]
  split <;> omega

theorem roundHalfEven_mul_mul (hscale : 0 < scale) :
    roundHalfEven (num * scale) (den * scale) = roundHalfEven num den := by
  have hquotient : num * scale / (den * scale) = num / den :=
    Nat.mul_div_mul_right num den hscale
  have hrest : num * scale % (den * scale) = num % den * scale := Nat.mul_mod_mul_right scale num den
  have habove : den * scale < 2 * (num % den * scale) ↔ den < 2 * (num % den) := by
    rw [← Nat.mul_assoc]
    exact Nat.mul_lt_mul_right hscale
  have htie : den * scale = 2 * (num % den * scale) ↔ den = 2 * (num % den) := by
    rw [← Nat.mul_assoc]
    exact Nat.mul_left_inj (Nat.ne_of_gt hscale)
  simp only [roundHalfEven, hquotient, hrest, habove, htie]

theorem roundHalfEven_mul_self (value : Nat) (hden : 0 < den) :
    roundHalfEven (value * den) den = value := by
  simp [roundHalfEven, Nat.mul_div_cancel value hden]
  omega

theorem roundHalfEven_eq_zero (hhalf : 2 * num < den) : roundHalfEven num den = 0 := by
  have hquotient : num / den = 0 := Nat.div_eq_of_lt (by omega)
  have hrest : num % den = num := Nat.mod_eq_of_lt (by omega)
  simp only [roundHalfEven, hquotient, hrest]
  rw [if_neg (by omega)]

/-! ## To steps -/

theorem roundUnits_mul_mul (hscale : 0 < scale) :
    roundUnits (num * scale) (den * scale) = roundUnits num den := by
  simp only [roundUnits, Nat.mul_div_mul_right num den hscale, Nat.mul_right_comm den scale,
    roundHalfEven_mul_mul hscale]

theorem representable_zero : Representable 0 := ⟨powerOfTwo_pos 2098, Nat.dvd_zero _⟩

theorem representable_one : Representable 1 :=
  ⟨(powerOfTwo_le (by decide) : powerOfTwo 1 ≤ powerOfTwo 2098), Nat.dvd_refl 1⟩

/-- A magnitude of at most 53 significant bits is its own rounding. -/
theorem roundUnits_one {units : Nat} (hbits : powerOfTwo (units.log2 + 1 - 53) ∣ units) :
    roundUnits units 1 = units := by
  obtain ⟨significand, hunits⟩ := hbits
  have hround : roundHalfEven units (powerOfTwo (units.log2 + 1 - 53)) = significand := by
    calc roundHalfEven units (powerOfTwo (units.log2 + 1 - 53))
        = roundHalfEven (significand * powerOfTwo (units.log2 + 1 - 53))
            (powerOfTwo (units.log2 + 1 - 53)) := by rw [Nat.mul_comm significand, ← hunits]
      _ = significand := roundHalfEven_mul_self significand (powerOfTwo_pos _)
  rw [roundUnits, Nat.div_one, Nat.one_mul, hround, Nat.mul_comm]
  exact hunits.symm

theorem roundUnits_mul_self {units : Nat} (hden : 0 < den)
    (hbits : powerOfTwo (units.log2 + 1 - 53) ∣ units) : roundUnits (units * den) den = units := by
  calc roundUnits (units * den) den
      = roundUnits (units * den) (1 * den) := by rw [Nat.one_mul]
    _ = roundUnits units 1 := roundUnits_mul_mul hden
    _ = units := roundUnits_one hbits

theorem le_log2_of_le {value exponent : Nat} (hzero : value ≠ 0)
    (hle : powerOfTwo exponent ≤ value) : exponent ≤ value.log2 :=
  (Nat.le_log2 hzero).mpr hle

theorem powerOfTwo_log2_le_roundUnits (hone : num / den ≠ 0) :
    powerOfTwo (num / den).log2 ≤ roundUnits num den := by
  generalize hdropped : (num / den).log2 + 1 - 53 = dropped
  have hkept : (num / den).log2 = (num / den).log2 - dropped + dropped := by omega
  have hsignificand :
      powerOfTwo ((num / den).log2 - dropped) ≤ roundHalfEven num (den * powerOfTwo dropped) := by
    refine Nat.le_trans ?_ (le_roundHalfEven _ _)
    rw [← Nat.div_div_eq_div_mul, Nat.le_div_iff_mul_le (powerOfTwo_pos dropped), ← powerOfTwo_add,
      ← hkept]
    exact Nat.log2_self_le hone
  calc powerOfTwo (num / den).log2
      = powerOfTwo ((num / den).log2 - dropped) * powerOfTwo dropped := by
        rw [← powerOfTwo_add, ← hkept]
    _ ≤ roundHalfEven num (den * powerOfTwo dropped) * powerOfTwo dropped :=
        Nat.mul_le_mul_right _ hsignificand
    _ = roundUnits num den := by simp only [roundUnits, hdropped]

theorem roundUnits_eq_zero (hhalf : 2 * num < den) : roundUnits num den = 0 := by
  have hquotient : num / den = 0 := Nat.div_eq_of_lt (by omega)
  simp [roundUnits, hquotient, powerOfTwo, roundHalfEven_eq_zero hhalf]

/-! ## Of decimals -/

theorem powerOfTen_pos (exponent : Nat) : 0 < powerOfTen exponent := Nat.pow_pos (by decide)

theorem powerOfTen_zero : powerOfTen 0 = 1 := rfl

theorem powerOfTen_add (first second : Nat) :
    powerOfTen (first + second) = powerOfTen first * powerOfTen second :=
  Nat.pow_add 10 first second

theorem powerOfTen_le {first second : Nat} (hle : first ≤ second) :
    powerOfTen first ≤ powerOfTen second :=
  Nat.pow_le_pow_right (by decide) hle

/-- The magnitude nearest to `significand * 10 ^ exponent`, whatever the exponent. -/
def roundScaled (significand : Nat) : Int → Nat
  | .ofNat power => roundUnits (significand * powerOfTen power * unitsPerOne) 1
  | .negSucc power => roundUnits (significand * unitsPerOne) (powerOfTen (power + 1))

/-- The exponent may be written as any difference of two powers. -/
theorem roundScaled_eq_roundUnits {significand above below : Nat} {exponent : Int}
    (hexponent : exponent = (above : Int) - below) :
    roundScaled significand exponent =
      roundUnits (significand * powerOfTen above * unitsPerOne) (powerOfTen below) := by
  cases exponent with
  | ofNat power =>
      have habove : above = power + below := by
        rw [Int.ofNat_eq_natCast] at hexponent
        omega
      rw [roundScaled, habove, ← roundUnits_mul_mul (powerOfTen_pos below), powerOfTen_add,
        Nat.one_mul, ← Nat.mul_assoc significand, Nat.mul_right_comm _ unitsPerOne]
  | negSucc power =>
      have hbelow : below = power + 1 + above := by omega
      rw [roundScaled, hbelow, ← roundUnits_mul_mul (powerOfTen_pos above),
        powerOfTen_add (power + 1), Nat.mul_right_comm]

theorem roundScaled_mul_powerOfTen (significand zeros : Nat) (exponent : Int) :
    roundScaled (significand * powerOfTen zeros) exponent =
      roundScaled significand (exponent + zeros) := by
  rw [roundScaled_eq_roundUnits
      (show exponent = (exponent.toNat : Int) - (-exponent).toNat by omega),
    roundScaled_eq_roundUnits
      (show exponent + zeros = ((zeros + exponent.toNat : Nat) : Int) - (-exponent).toNat by omega),
    powerOfTen_add, Nat.mul_assoc significand]

theorem roundScaled_zero (exponent : Int) : roundScaled 0 exponent = 0 := by
  rw [roundScaled_eq_roundUnits (show exponent = exponent.toNat - (-exponent).toNat by omega),
    Nat.zero_mul, Nat.zero_mul]
  exact roundUnits_eq_zero (powerOfTen_pos _)

/-- The greatest finite magnitude is below `10 ^ 401`. -/
theorem unitsBound_le_roundScaled {significand : Nat} {exponent : Int}
    (hsignificand : significand ≠ 0) (hhigh : 400 < exponent) :
    unitsBound ≤ roundScaled significand exponent := by
  obtain ⟨more, hmore⟩ : ∃ more : Nat, exponent = (401 + more : Nat) :=
    ⟨(exponent - 401).toNat, by omega⟩
  have hunits : powerOfTwo 2098 ≤ significand * powerOfTen (401 + more) * unitsPerOne := by
    calc powerOfTwo 2098
        ≤ powerOfTen 401 * unitsPerOne := by decide +kernel
      _ ≤ significand * powerOfTen (401 + more) * unitsPerOne := by
          apply Nat.mul_le_mul_right
          rw [powerOfTen_add, Nat.mul_left_comm]
          apply Nat.le_mul_of_pos_right
          exact Nat.mul_pos (Nat.pos_of_ne_zero hsignificand) (powerOfTen_pos more)
  rw [roundScaled_eq_roundUnits (show exponent = (401 + more : Nat) - (0 : Nat) by omega)]
  generalize significand * powerOfTen (401 + more) * unitsPerOne = units at hunits
  have hone : units / powerOfTen 0 = units := Nat.div_one units
  have hpos : units ≠ 0 := Nat.ne_of_gt (Nat.lt_of_lt_of_le (powerOfTwo_pos 2098) hunits)
  have hround := powerOfTwo_log2_le_roundUnits (hone.symm ▸ hpos)
  rw [hone] at hround
  exact Nat.le_trans (powerOfTwo_le (le_log2_of_le hpos hunits)) hround

/-- Half a step is above `10 ^ (-400)`. -/
theorem roundScaled_eq_zero {significand : Nat} {exponent : Int}
    (hlow : exponent + (significand.log2 + 1) < -400) : roundScaled significand exponent = 0 := by
  obtain ⟨more, hmore⟩ : ∃ more : Nat, -exponent = (significand.log2 + 1 + (400 + more) : Nat) :=
    ⟨(-exponent - (400 + (significand.log2 + 1))).toNat, by omega⟩
  rw [roundScaled_eq_roundUnits
    (show exponent = (0 : Nat) - (significand.log2 + 1 + (400 + more) : Nat) by omega)]
  apply roundUnits_eq_zero
  calc 2 * (significand * powerOfTen 0 * unitsPerOne)
      = significand * (2 * unitsPerOne) := by
        rw [powerOfTen_zero, Nat.mul_one, Nat.mul_left_comm]
    _ < powerOfTwo (significand.log2 + 1) * (2 * unitsPerOne) :=
        Nat.mul_lt_mul_of_pos_right (lt_powerOfTwo_log2 significand)
          (Nat.mul_pos (by decide) (powerOfTwo_pos 1074))
    _ ≤ powerOfTen (significand.log2 + 1) * powerOfTen (400 + more) := by
        apply Nat.mul_le_mul
        · exact Nat.pow_le_pow_left (by decide) _
        · calc 2 * unitsPerOne
              ≤ powerOfTen 400 := by decide +kernel
            _ ≤ powerOfTen (400 + more) := powerOfTen_le (Nat.le_add_right 400 more)
    _ = powerOfTen (significand.log2 + 1 + (400 + more)) := (powerOfTen_add _ _).symm

theorem roundDecimal_zero (exponent : Int) : roundDecimal 0 exponent = 0 := by
  simp [roundDecimal]

/-- The shortcuts of a rounding agree with it up to the first magnitude out of range. -/
theorem min_roundDecimal (significand : Nat) (exponent : Int) :
    min (roundDecimal significand exponent) unitsBound =
      min (roundScaled significand exponent) unitsBound := by
  unfold roundDecimal
  split
  next hzero => rw [hzero, roundScaled_zero]
  next hzero =>
    split
    next hhigh => rw [Nat.min_self, Nat.min_eq_right (unitsBound_le_roundScaled hzero hhigh)]
    next =>
      split
      next hlow => rw [roundScaled_eq_zero hlow]
      next => cases exponent <;> rfl

/-- Zeros behind the digits make no difference where the exponent makes up for them. -/
theorem roundDecimal_mul_powerOfTen_eq_iff {significand zeros units : Nat} {exponent : Int}
    (hunits : units < unitsBound) :
    roundDecimal (significand * powerOfTen zeros) exponent = units ↔
      roundDecimal significand (exponent + zeros) = units := by
  have hleft := min_roundDecimal (significand * powerOfTen zeros) exponent
  have hright := min_roundDecimal significand (exponent + zeros)
  rw [roundScaled_mul_powerOfTen, ← hright] at hleft
  omega

/-- A step is `5 ^ 1074 * 10 ^ (-1074)`, and so on for finer grids. -/
theorem roundUnits_expansion {units : Nat} (exponent : Nat)
    (hbits : powerOfTwo (units.log2 + 1 - 53) ∣ units) :
    roundUnits (units * Nat.pow 5 exponent * powerOfTwo exponent) (powerOfTen exponent) = units := by
  have hpower : Nat.pow 5 exponent * powerOfTwo exponent = powerOfTen exponent :=
    (Nat.mul_pow 5 2 exponent).symm
  rw [Nat.mul_assoc, hpower]
  exact roundUnits_mul_self (powerOfTen_pos exponent) hbits

/-- The exact expansion of a magnitude. -/
theorem roundDecimal_expansion {units : Nat} (hunits : Representable units) :
    roundDecimal (units * Nat.pow 5 1074) (-1074) = units := by
  have hexact : roundScaled (units * Nat.pow 5 1074) (-1074) = units := by
    rw [roundScaled_eq_roundUnits (show (-1074 : Int) = (0 : Nat) - (1074 : Nat) by omega),
      powerOfTen_zero, Nat.mul_one]
    exact roundUnits_expansion 1074 hunits.2
  have hmin := min_roundDecimal (units * Nat.pow 5 1074) (-1074)
  have hbound := hunits.1
  rw [hexact] at hmin
  omega

end FacetFilter
