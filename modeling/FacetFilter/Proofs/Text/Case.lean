import Mathlib.Data.List.Chain
import FacetFilter.Text.CaseFold
import FacetFilter.Text.Lowercase

/-!
# Lower case and folding

The two mappings were drawn up apart: lower case may make two characters of one and
looks at the letters around, folding does neither.  Yet they agree on all but a few
capitals.  The tables are compared range by range, since almost every range of one is
a range of the other, and code by code only where they differ.
-/

namespace FacetFilter.Text

/-! ## Ranges of shifts -/

namespace Shift

/-- Where the range takes a code. -/
def move (range : Shift) (code : Nat) : Nat := (code + range.shift).toNat

structure Moves (range : Shift) (code : Nat) : Prop where
  first_le : range.first ≤ code
  le_last : code ≤ range.last
  onStride : (code - range.first) % range.stride = 0

/-- The range ends before the other begins. -/
def Precedes (range other : Shift) : Prop :=
  range.first ≤ other.first ∧ range.last < other.first

instance (range other : Shift) : Decidable (range.Precedes other) :=
  inferInstanceAs (Decidable (_ ∧ _))

instance : IsTrans Shift Precedes where
  trans _ _ _ hfirst hsecond :=
    ⟨hfirst.1.trans hsecond.1, hfirst.2.trans_le hsecond.1⟩

end Shift

variable {code : Nat} {range : Shift} {ranges : List Shift}

theorem shiftCode_eq (code : Nat) (ranges : List Shift) :
    shiftCode code ranges = code ∨
      ∃ range ∈ ranges, range.Moves code ∧ shiftCode code ranges = range.move code := by
  induction ranges with
  | nil => exact .inl rfl
  | cons range ranges ih =>
      rw [shiftCode]
      split
      · exact .inl rfl
      · next hfirst =>
        split
        · next hlast =>
          split
          · next hstride =>
            exact .inr ⟨range, List.mem_cons_self, ⟨Nat.not_lt.mp hfirst, hlast, hstride⟩, rfl⟩
          · exact .inl rfl
        · exact ih.imp_right fun ⟨other, hmem, hother⟩ =>
            ⟨other, List.mem_cons_of_mem range hmem, hother⟩

theorem shiftCode_eq_self (hranges : ∀ range ∈ ranges, ¬range.Moves code) :
    shiftCode code ranges = code := by
  rcases shiftCode_eq code ranges with hself | ⟨range, hmem, hmoves, -⟩
  · exact hself
  · exact absurd hmoves (hranges range hmem)

/-- Of ranges in order the one that moves a code is the one that counts. -/
theorem shiftCode_eq_move (hranges : ranges.Pairwise Shift.Precedes) (hmem : range ∈ ranges)
    (hmoves : range.Moves code) : shiftCode code ranges = range.move code := by
  induction ranges with
  | nil => exact absurd hmem List.not_mem_nil
  | cons head tail ih =>
      obtain ⟨hhead, htail⟩ := List.pairwise_cons.mp hranges
      have hfirst := hmoves.first_le
      rcases List.mem_cons.mp hmem with rfl | hmem
      · rw [shiftCode, if_neg (by omega), if_pos hmoves.le_last, if_pos hmoves.onStride]
        rfl
      · obtain ⟨hbefore, hlast⟩ := hhead range hmem
        rw [shiftCode, if_neg (by omega), if_neg (by omega)]
        exact ih htail hmem

/-! ## The tables are in order -/

theorem pairwise_lowerShifts : lowerShifts.Pairwise Shift.Precedes := by
  rw [← List.isChain_iff_pairwise]
  decide +kernel

theorem pairwise_foldShifts : foldShifts.Pairwise Shift.Precedes := by
  rw [← List.isChain_iff_pairwise]
  decide +kernel

/-! ## Folding twice -/

namespace Shift

/-- No code is moved by the other range that this range has moved: the other ends before, or it
skips every second code and just those are met. -/
def clears (range other : Shift) : Bool :=
  other.last.blt (range.move range.first) ||
    ((range.first == range.last || range.stride == 2) && other.stride == 2 &&
      (0 ≤ range.first + range.shift && (range.move range.first + other.first) % 2 == 1))

/-- What the range has moved is left alone by all ranges, of which those that begin too late need
no look. -/
def settles (range : Shift) : List Shift → Bool
  | [] => true
  | other :: rest =>
      (range.move range.last).blt other.first || (range.clears other && range.settles rest)

theorem not_moves_of_clears {other : Shift} (hclears : range.clears other = true)
    (hmoves : range.Moves code) : ¬other.Moves (range.move code) := by
  obtain ⟨hfirst, hlast, hstride⟩ := hmoves
  rintro ⟨hotherFirst, hotherLast, hotherStride⟩
  simp only [clears, Bool.or_eq_true, Bool.and_eq_true, decide_eq_true_eq, beq_iff_eq,
    Nat.blt_eq] at hclears
  simp only [move] at hclears hotherFirst hotherLast hotherStride
  rcases hclears with happart | ⟨⟨hsingle | htwo, hotherTwo⟩, hnonneg, hodd⟩
  · omega
  · rw [hotherTwo] at hotherStride
    omega
  · rw [hotherTwo] at hotherStride
    rw [htwo] at hstride
    omega

end Shift

theorem shiftCode_move_of_settles (hsettles : range.settles ranges = true)
    (hmoves : range.Moves code) : shiftCode (range.move code) ranges = range.move code := by
  induction ranges with
  | nil => rfl
  | cons other rest ih =>
      rw [Shift.settles, Bool.or_eq_true, Bool.and_eq_true, Nat.blt_eq] at hsettles
      rw [shiftCode]
      split
      · rfl
      · next hfirst =>
        rcases hsettles with hbefore | ⟨hclears, hrest⟩
        · have hlast := hmoves.le_last
          simp only [Shift.move] at hbefore hfirst
          omega
        · split
          · next hlast =>
            refine if_neg fun hstride => ?_
            exact Shift.not_moves_of_clears hclears hmoves ⟨Nat.not_lt.mp hfirst, hlast, hstride⟩
          · exact ih hrest

theorem settles_foldShifts :
    (foldShifts.all fun range => range.settles foldShifts) = true := by decide +kernel

/-- What is folded stays as it is when it is folded again. -/
theorem shiftCode_foldShifts_idem (code : Nat) :
    shiftCode (shiftCode code foldShifts) foldShifts = shiftCode code foldShifts := by
  rcases shiftCode_eq code foldShifts with hself | ⟨range, hmem, hmoves, hmove⟩
  · rw [hself, hself]
  · rw [hmove]
    exact shiftCode_move_of_settles (List.all_eq_true.mp settles_foldShifts range hmem) hmoves

/-- Folding leaves codes alone that lie in none of its ranges. -/
theorem shiftCode_foldShifts_eq_self {low high : Nat}
    (hapart : (foldShifts.all fun range => range.last.blt low || high.blt range.first) = true)
    (hlow : low ≤ code) (hhigh : code ≤ high) : shiftCode code foldShifts = code := by
  refine shiftCode_eq_self fun range hmem hmoves => ?_
  have hrange := List.all_eq_true.mp hapart range hmem
  simp only [Bool.or_eq_true, Nat.blt_eq] at hrange
  have hfirst := hmoves.first_le
  have hlast := hmoves.le_last
  omega

/-! ## Both tables -/

/-- The ranges of lower case that folding does not share. -/
def lowerAlone : List Shift :=
  [⟨0x13A0, 0x13EF, 1, 38864⟩, ⟨0x13F0, 0x13F5, 1, 8⟩, ⟨0xA7CC, 0xA7DA, 2, 1⟩,
   ⟨0x16EA0, 0x16EB8, 1, 27⟩]

theorem sublist_foldShifts :
    (lowerShifts.filter fun range => !lowerAlone.contains range).Sublist foldShifts := by
  decide +kernel

theorem mem_foldShifts_or_lowerAlone (hmem : range ∈ lowerShifts) :
    range ∈ foldShifts ∨ range ∈ lowerAlone := by
  by_cases halone : range ∈ lowerAlone
  · exact .inr halone
  · exact .inl (sublist_foldShifts.subset (List.mem_filter.mpr ⟨hmem, by simpa using halone⟩))

/-- Capitals whose lower case is not equal to them up to case: folding does not have them. -/
def unfoldedRanges : List (Nat × Nat) :=
  [(0xA7CE, 0xA7CE), (0xA7D2, 0xA7D2), (0xA7D4, 0xA7D4), (0x16EA0, 0x16EB8)]

theorem inRanges_unfoldedRanges :
    inRanges code unfoldedRanges = true ↔
      code = 0xA7CE ∨ code = 0xA7D2 ∨ code = 0xA7D4 ∨ 0x16EA0 ≤ code ∧ code ≤ 0x16EB8 := by
  simp only [unfoldedRanges, inRanges]
  split_ifs <;> simp <;> omega

/-- A range that both tables have moves a code to where folding leaves it. -/
theorem shiftCode_move_of_mem_foldShifts (hmem : range ∈ foldShifts) (hmoves : range.Moves code) :
    shiftCode (range.move code) foldShifts = shiftCode code foldShifts := by
  rw [← shiftCode_eq_move pairwise_foldShifts hmem hmoves, shiftCode_foldShifts_idem]

/-- Capitals that folding leaves alone, while it takes their lower case back to them. -/
theorem shiftCode_move_of_back {back : Shift} (hback : back ∈ foldShifts)
    (hstride : back.stride = 1) (hfirst : (back.first : Int) = range.first + range.shift)
    (hlast : (back.last : Int) = range.last + range.shift) (hshift : back.shift = -range.shift)
    (hapart : (foldShifts.all fun other =>
      other.last.blt range.first || range.last.blt other.first) = true)
    (hmoves : range.Moves code) :
    shiftCode (range.move code) foldShifts = shiftCode code foldShifts := by
  obtain ⟨hcodeFirst, hcodeLast, -⟩ := hmoves
  have hmoved : back.Moves (range.move code) := by
    refine ⟨?_, ?_, by rw [hstride, Nat.mod_one]⟩ <;> dsimp only [Shift.move] <;> omega
  rw [shiftCode_foldShifts_eq_self hapart hcodeFirst hcodeLast,
    shiftCode_eq_move pairwise_foldShifts hback hmoved]
  dsimp only [Shift.move]
  omega

/-- In this range some small letters, next to their capitals, are folded with them. -/
theorem shiftCode_succ_foldShifts : ∀ count < 8,
    inRanges (0xA7CC + 2 * count) unfoldedRanges = false →
      shiftCode (0xA7CC + 2 * count + 1) foldShifts =
        shiftCode (0xA7CC + 2 * count) foldShifts := by
  decide +kernel

theorem shiftCode_move_of_mem_lowerAlone (hmem : range ∈ lowerAlone) (hmoves : range.Moves code)
    (hfolded : inRanges code unfoldedRanges = false) :
    shiftCode (range.move code) foldShifts = shiftCode code foldShifts := by
  simp only [lowerAlone, List.mem_cons, List.not_mem_nil, or_false] at hmem
  rcases hmem with rfl | rfl | rfl | rfl
  -- The small letters of Cherokee came after its capitals, so that folding goes up.
  · have hback : (⟨0xAB70, 0xABBF, 1, -38864⟩ : Shift) ∈ foldShifts := by decide
    exact shiftCode_move_of_back hback rfl rfl rfl rfl (by decide) hmoves
  · have hback : (⟨0x13F8, 0x13FD, 1, -8⟩ : Shift) ∈ foldShifts := by decide
    exact shiftCode_move_of_back hback rfl rfl rfl rfl (by decide) hmoves
  · obtain ⟨hfirst, hlast, hstride⟩ := hmoves
    dsimp only at hfirst hlast hstride
    obtain ⟨count, rfl⟩ : ∃ count, code = 0xA7CC + 2 * count := ⟨(code - 0xA7CC) / 2, by omega⟩
    exact shiftCode_succ_foldShifts count (by omega) hfolded
  · have hunfolded := inRanges_unfoldedRanges.mpr
      (.inr (.inr (.inr ⟨hmoves.first_le, hmoves.le_last⟩)))
    rw [hfolded] at hunfolded
    cases hunfolded

theorem shiftCode_lowerShifts_of_unfolded (hunfolded : inRanges code unfoldedRanges = true) :
    shiftCode (shiftCode code lowerShifts) foldShifts ≠ shiftCode code foldShifts := by
  rcases inRanges_unfoldedRanges.mp hunfolded with rfl | rfl | rfl | ⟨hfirst, hlast⟩
  · decide +kernel
  · decide +kernel
  · decide +kernel
  · have hmem : (⟨0x16EA0, 0x16EB8, 1, 27⟩ : Shift) ∈ lowerShifts := by decide +kernel
    have hlower : shiftCode code lowerShifts = code + 27 :=
      shiftCode_eq_move pairwise_lowerShifts hmem ⟨hfirst, hlast, Nat.mod_one _⟩
    have hapart : (foldShifts.all fun other =>
      other.last.blt 0x16EA0 || Nat.blt 0x16ED3 other.first) = true := by decide +kernel
    rw [hlower, shiftCode_foldShifts_eq_self hapart (by omega) (by omega),
      shiftCode_foldShifts_eq_self hapart (by omega) (by omega)]
    omega

/-- Lower case keeps what a code folds to, but for the capitals that folding does not have. -/
theorem shiftCode_lowerShifts_iff :
    shiftCode (shiftCode code lowerShifts) foldShifts = shiftCode code foldShifts ↔
      inRanges code unfoldedRanges = false := by
  constructor
  · intro hfold
    by_contra hunfolded
    exact shiftCode_lowerShifts_of_unfolded (by simpa using hunfolded) hfold
  · intro hfolded
    rcases shiftCode_eq code lowerShifts with hself | ⟨range, hmem, hmoves, hmove⟩
    · rw [hself]
    · rw [hmove]
      rcases mem_foldShifts_or_lowerAlone hmem with hshared | halone
      · exact shiftCode_move_of_mem_foldShifts hshared hmoves
      · exact shiftCode_move_of_mem_lowerAlone halone hmoves hfolded

/-! ## Characters -/

/-- Whether the range takes codes of characters to codes of characters. -/
def Shift.landsValid (range : Shift) : Bool :=
  (range.move range.last).blt 0xD800 ||
    Nat.blt 0xDFFF (range.move range.first) && (range.move range.last).blt 0x110000

theorem isValidChar_shiftCode (hranges : ranges.all Shift.landsValid = true)
    (hcode : code.isValidChar) : (shiftCode code ranges).isValidChar := by
  rcases shiftCode_eq code ranges with hself | ⟨range, hmem, ⟨hfirst, hlast, -⟩, hmove⟩
  · rwa [hself]
  · have hlands := List.all_eq_true.mp hranges range hmem
    simp only [Shift.landsValid, Shift.move, Bool.or_eq_true, Bool.and_eq_true,
      Nat.blt_eq] at hlands
    rw [hmove, Shift.move, Nat.isValidChar]
    omega

theorem landsValid_lowerShifts : lowerShifts.all Shift.landsValid = true := by decide

theorem landsValid_foldShifts : foldShifts.all Shift.landsValid = true := by decide

theorem toNat_ofNat_of_isValidChar (hcode : code.isValidChar) : (Char.ofNat code).toNat = code := by
  rw [Char.ofNat, dif_pos hcode]
  rfl

theorem toNat_foldChar (char : Char) :
    (foldChar char).toNat = shiftCode char.toNat foldShifts :=
  toNat_ofNat_of_isValidChar (isValidChar_shiftCode landsValid_foldShifts char.valid)

/-- Whether the lower case of a character is not equal to it up to case: one capital becomes two
characters, and of some others folding does not know the lower case. -/
def isStray (char : Char) : Bool := char == 'İ' || inRanges char.toNat unfoldedRanges

theorem fold_lowerChar_iff (char : Char) :
    fold (lowerChar char) = [foldChar char] ↔ isStray char = false := by
  rw [lowerChar, isStray]
  split
  · next hdotted =>
    subst hdotted
    exact iff_of_false (fun hfold => absurd (congrArg List.length hfold) (by decide)) (by decide)
  · next hdotted =>
    have hlower : (Char.ofNat (shiftCode char.toNat lowerShifts)).toNat =
        shiftCode char.toNat lowerShifts :=
      toNat_ofNat_of_isValidChar (isValidChar_shiftCode landsValid_lowerShifts char.valid)
    rw [fold, List.map_singleton, List.singleton_inj, ← Char.toNat_inj, toNat_foldChar,
      toNat_foldChar, hlower, shiftCode_lowerShifts_iff]
    simp [hdotted]

/-! ## Texts -/

theorem fold_append (first second : List Char) :
    fold (first ++ second) = fold first ++ fold second := List.map_append

theorem length_fold (chars : List Char) : (fold chars).length = chars.length := List.length_map _

theorem length_lowerChar_pos (char : Char) : 0 < (lowerChar char).length := by
  rw [lowerChar]
  split <;> exact Nat.succ_pos _

/-- The lower case of one character, with a sigma that may be final. -/
def lowerAt (before : List Char) (char : Char) (rest : List Char) : List Char :=
  if char = 'Σ' then [if leadsToCased before && !leadsToCased rest then 'ς' else 'σ']
  else lowerChar char

theorem fold_lowerAt_iff (before : List Char) (char : Char) (rest : List Char) :
    fold (lowerAt before char rest) = [foldChar char] ↔ isStray char = false := by
  rw [lowerAt]
  split
  · next hsigma =>
    subst hsigma
    refine iff_of_true ?_ (by decide)
    split <;> decide
  · exact fold_lowerChar_iff char

theorem length_lowerAt_pos (before : List Char) (char : Char) (rest : List Char) :
    0 < (lowerAt before char rest).length := by
  rw [lowerAt]
  split
  · exact Nat.one_pos
  · exact length_lowerChar_pos char

theorem lowerAfter_cons (before : List Char) (char : Char) (rest : List Char) :
    lowerAfter before (char :: rest) =
      lowerAt before char rest ++ lowerAfter (char :: before) rest := rfl

theorem length_le_length_lowerAfter (before chars : List Char) :
    chars.length ≤ (lowerAfter before chars).length := by
  induction chars generalizing before with
  | nil => exact Nat.zero_le _
  | cons char rest ih =>
      rw [lowerAfter_cons, List.length_append, List.length_cons]
      have hchar := length_lowerAt_pos before char rest
      have hrest := ih (char :: before)
      omega

/-- Lower case is equal to a text up to case exactly if no character of it is astray. -/
theorem fold_lowerAfter_iff (before chars : List Char) :
    fold (lowerAfter before chars) = fold chars ↔ ∀ char ∈ chars, isStray char = false := by
  induction chars generalizing before with
  | nil => simp [lowerAfter]
  | cons char rest ih =>
      rw [lowerAfter_cons, fold_append, List.forall_mem_cons, ← ih (char :: before),
        ← fold_lowerAt_iff before char rest]
      change _ = [foldChar char] ++ fold rest ↔ _
      constructor
      · intro hfold
        -- Lower case never shortens, so a character that becomes two leaves no room for the rest.
        have hlength : (fold (lowerAt before char rest)).length = [foldChar char].length := by
          have hboth := congrArg List.length hfold
          have hchar := length_lowerAt_pos before char rest
          have hrest := length_le_length_lowerAfter (char :: before) rest
          simp only [List.length_append, length_fold, List.length_singleton] at hboth ⊢
          omega
        exact List.append_inj hfold hlength
      · rintro ⟨hchar, hrest⟩
        rw [hchar, hrest]

theorem fold_lower_iff (text : String) :
    fold (lower text).toList = fold text.toList ↔ ∀ char ∈ text.toList, isStray char = false := by
  rw [lower, String.toList_ofList]
  exact fold_lowerAfter_iff [] text.toList

/-! ## Character by character -/

/-- What a character becomes once it is in lower case and folded. -/
def loosened (char : Char) : List Char := fold (lowerAt [] char [])

/-- Both small sigmas fold to one, so the letters around a character do not matter. -/
theorem fold_lowerAt (before : List Char) (char : Char) (rest : List Char) :
    fold (lowerAt before char rest) = loosened char := by
  have hsigma : fold ['ς'] = fold ['σ'] := by decide
  have heither : ∀ final : Bool, fold [if final then 'ς' else 'σ'] = fold ['σ'] := by
    intro final
    cases final
    · rfl
    · exact hsigma
  rw [loosened, lowerAt, lowerAt]
  split
  · rw [heither, heither]
  · rfl

theorem fold_lowerAfter (before chars : List Char) :
    fold (lowerAfter before chars) = chars.flatMap loosened := by
  induction chars generalizing before with
  | nil => rfl
  | cons char rest ih =>
      rw [lowerAfter_cons, fold_append, fold_lowerAt, ih, List.flatMap_cons]

/-- Lower case looks at whole words, and yet up to case a text is put together character by
character. -/
theorem fold_lower (text : String) : fold (lower text).toList = text.toList.flatMap loosened := by
  rw [lower, String.toList_ofList, fold_lowerAfter]

end FacetFilter.Text
