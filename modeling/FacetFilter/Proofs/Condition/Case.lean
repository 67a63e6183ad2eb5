import FacetFilter.Proofs.Catalog.Steps
import FacetFilter.Proofs.Condition.Locality
import FacetFilter.Proofs.Text.Case

/-!
# Text conditions with and without case

Where case does not count, only the value is put into lower case; a field is compared
with it up to case as it stands.  What is found with case is found without it as long
as the lower case of the value is equal to the value up to case, and no longer.
-/

namespace FacetFilter

/-! ## Tests -/

namespace TextTest

variable {test : TextTest} {value text : List Char}

theorem isRunOf_iff : isRunOf value text = true ↔ value <:+: text := by
  induction text with
  | nil => simp [isRunOf]
  | cons head tail ih =>
      rw [isRunOf, Bool.or_eq_true, ih, List.isPrefixOf_iff_prefix, List.infix_cons_iff]

theorem holds_self (test : TextTest) (value : List Char) : test.holds value value = true := by
  cases test with
  | exact => exact beq_self_eq_true value
  | startsWith => exact List.isPrefixOf_iff_prefix.mpr List.prefix_rfl
  | endsWith => exact List.isSuffixOf_iff_suffix.mpr List.suffix_rfl
  | contains => exact isRunOf_iff.mpr List.infix_rfl

theorem holds_map (change : Char → Char) (hholds : test.holds value text = true) :
    test.holds (value.map change) (text.map change) = true := by
  cases test with
  | exact =>
      obtain rfl := eq_of_beq hholds
      exact beq_self_eq_true _
  | startsWith =>
      exact List.isPrefixOf_iff_prefix.mpr ((List.isPrefixOf_iff_prefix.mp hholds).map change)
  | endsWith =>
      exact List.isSuffixOf_iff_suffix.mpr ((List.isSuffixOf_iff_suffix.mp hholds).map change)
  | contains => exact isRunOf_iff.mpr ((isRunOf_iff.mp hholds).map change)

/-- A text that is no longer than the value can only be the value. -/
theorem eq_of_holds (hholds : test.holds value text = true) (hlength : text.length ≤ value.length) :
    value = text := by
  cases test with
  | exact => exact (eq_of_beq hholds).symm
  | startsWith => exact (List.isPrefixOf_iff_prefix.mp hholds).eq_of_length_le hlength
  | endsWith => exact (List.isSuffixOf_iff_suffix.mp hholds).eq_of_length_le hlength
  | contains => exact (isRunOf_iff.mp hholds).eq_of_length_le hlength

end TextTest

/-! ## Conditions -/

namespace TextCondition

variable {column value : String} {test : TextTest} {showNull : Bool}

theorem accepts_make_of_some {caseSensitive : Bool} {field : FieldValue} {text : String}
    (htext : field.comparedText = some text) :
    (make column test value caseSensitive false showNull).accepts field =
      (make column test value caseSensitive false showNull).matchesText text := by
  rw [accepts, htext]
  exact Bool.bne_false _

theorem matchesText_loose (text : String) :
    (make column test value false false showNull).matchesText text =
      test.holds (Text.fold (Text.lower value).toList) (Text.fold text.toList) := rfl

theorem accepts_loose_of_strict (hvalue : ∀ char ∈ value.toList, Text.isStray char = false)
    {field : FieldValue} (haccepts : (make column test value true false showNull).accepts field) :
    (make column test value false false showNull).accepts field = true := by
  cases htext : field.comparedText with
  | none =>
      rw [accepts, htext] at haccepts ⊢
      exact haccepts
  | some text =>
      rw [accepts_make_of_some htext] at haccepts ⊢
      rw [matchesText_loose, (Text.fold_lower_iff value).mpr hvalue]
      exact TextTest.holds_map Text.foldChar haccepts

/-- Whatever its test, without case a condition finds the text that it looks for only if lower
case leaves this text equal up to case. -/
theorem matchesText_loose_self_iff :
    (make column test value false false showNull).matchesText value = true ↔
      ∀ char ∈ value.toList, Text.isStray char = false := by
  rw [matchesText_loose, ← Text.fold_lower_iff]
  constructor
  · intro hholds
    refine TextTest.eq_of_holds hholds ?_
    rw [Text.length_fold, Text.length_fold, Text.lower, String.toList_ofList]
    exact Text.length_le_length_lowerAfter [] value.toList
  · intro hfold
    rw [hfold]
    exact TextTest.holds_self test _

/-- One entity, of which a text is known and nothing else. -/
def recordOf (text : String) : Record := ⟨1, .ofList [("name", .text text)], [], []⟩

/-- What a text condition selects with case it selects without, in every catalog, exactly if no
character of its value is astray. -/
theorem select_loose_of_strict_iff (test : TextTest) (value : String) :
    (∀ (column : String) (showNull : Bool) (catalog : Catalog), catalog.hasColumn column = true →
      ∃ strict loose,
        (Condition.text (make column test value true false showNull)).select catalog = .ok strict ∧
          (Condition.text (make column test value false false showNull)).select catalog =
            .ok loose ∧
          ∀ id ∈ strict, id ∈ loose) ↔
      ∀ char ∈ value.toList, Text.isStray char = false := by
  have hselect {column : String} {showNull : Bool} {catalog : Catalog}
      (hcolumn : catalog.hasColumn column = true) (caseSensitive : Bool) := Condition.select_eq
    (.text (make column test value caseSensitive false showNull)) catalog hcolumn
  constructor
  · intro hsub
    have hcolumn : (Catalog.ofSteps [.add (recordOf value)]).hasColumn "name" = true :=
      Catalog.hasColumn_iff.mpr (Catalog.mem_columns_ofSteps.mpr
        ⟨_, List.mem_singleton_self _, List.mem_singleton_self _⟩)
    have hrecord : recordOf value ∈ (Catalog.ofSteps [.add (recordOf value)]).records :=
      List.mem_singleton_self _
    have hfield : (recordOf value).value "name" = .text value := by
      simp [Record.value, recordOf, Ascending.find?_ofList]
    have haccepts (caseSensitive : Bool) :
        (make "name" test value caseSensitive false false).accepts ((recordOf value).value "name") =
          (make "name" test value caseSensitive false false).matchesText value := by
      rw [hfield]
      exact accepts_make_of_some rfl
    obtain ⟨strict, loose, hstrict, hloose, hmem⟩ := hsub "name" false _ hcolumn
    cases (hselect hcolumn true).symm.trans hstrict
    cases (hselect hcolumn false).symm.trans hloose
    have hfound := (Catalog.mem_idsWhere_iff hrecord).mp
      (hmem _ ((Catalog.mem_idsWhere_iff hrecord).mpr
        ((haccepts true).trans (TextTest.holds_self test value.toList))))
    exact matchesText_loose_self_iff.mp ((haccepts false).symm.trans hfound)
  · intro hvalue column showNull catalog hcolumn
    refine ⟨_, _, hselect hcolumn true, hselect hcolumn false, fun id hid => ?_⟩
    obtain ⟨record, hrecord, rfl⟩ := Ascending.mem_keys.mp hid
    obtain ⟨hmem, haccepts⟩ := Ascending.mem_filter.mp hrecord
    exact (Catalog.mem_idsWhere_iff hmem).mpr (accepts_loose_of_strict hvalue haccepts)

/-- The dotted capital is found with case and is not found without. -/
theorem dottedCapital_only_with_case :
    let catalog := Catalog.ofSteps [.add (recordOf "İ")]
    catalog.hasColumn "name" = true ∧
      (Condition.text (make "name" .exact "İ" true false false)).select catalog =
        .ok (.ofList [1]) ∧
      (Condition.text (make "name" .exact "İ" false false false)).select catalog = .ok .empty := by
  refine ⟨rfl, by rfl, ?_⟩
  decide +kernel

end TextCondition

end FacetFilter
