import Mathlib.Data.List.Infix
import FacetFilter.Proofs.Condition.Case

/-!
# Longer values select less

A text that begins, ends or goes on with a value does so with every part of the value
that stands at the same end.  The lower case of a part need not be a part of the lower
case, since a sigma at the end of a word is written in another way; what is compared
is folded as well, and then it is put together from the characters of the value.
-/

namespace FacetFilter

/-! ## Tests -/

namespace TextTest

/-- What passes the first test of the first value passes the second test of the second value. -/
inductive Narrows : TextTest → List Char → TextTest → List Char → Prop where
  | startsWith {value longer : List Char} (hbegins : value <+: longer) :
      Narrows .startsWith longer .startsWith value
  | endsWith {value longer : List Char} (hends : value <:+ longer) :
      Narrows .endsWith longer .endsWith value
  | contains {value longer : List Char} (hinside : value <:+: longer) :
      Narrows .contains longer .contains value
  | exactStart {value : List Char} : Narrows .exact value .startsWith value
  | exactEnd {value : List Char} : Narrows .exact value .endsWith value
  | startWithin {value : List Char} : Narrows .startsWith value .contains value
  | endWithin {value : List Char} : Narrows .endsWith value .contains value

variable {test wider : TextTest} {value other text : List Char}

theorem Narrows.holds (hnarrows : Narrows test value wider other)
    (hholds : test.holds value text = true) : wider.holds other text = true := by
  cases hnarrows with
  | startsWith hbegins =>
      exact List.isPrefixOf_iff_prefix.mpr
        (hbegins.trans (List.isPrefixOf_iff_prefix.mp hholds))
  | endsWith hends =>
      exact List.isSuffixOf_iff_suffix.mpr
        (hends.trans (List.isSuffixOf_iff_suffix.mp hholds))
  | contains hinside => exact isRunOf_iff.mpr (hinside.trans (isRunOf_iff.mp hholds))
  | exactStart | exactEnd =>
      obtain rfl := eq_of_beq hholds
      exact holds_self _ _
  | startWithin => exact isRunOf_iff.mpr (List.isPrefixOf_iff_prefix.mp hholds).isInfix
  | endWithin => exact isRunOf_iff.mpr (List.isSuffixOf_iff_suffix.mp hholds).isInfix

/-- Characters may be replaced by texts, as long as each is replaced alike wherever it stands. -/
theorem Narrows.flatMap (hnarrows : Narrows test value wider other)
    (change : Char → List Char) :
    Narrows test (value.flatMap change) wider (other.flatMap change) := by
  cases hnarrows with
  | startsWith hbegins => exact .startsWith (hbegins.flatMap change)
  | endsWith hends => exact .endsWith (hends.flatMap change)
  | contains hinside => exact .contains (hinside.flatMap change)
  | exactStart => exact .exactStart
  | exactEnd => exact .exactEnd
  | startWithin => exact .startWithin
  | endWithin => exact .endWithin

end TextTest

/-! ## Conditions -/

namespace TextCondition

variable {column : String} {test wider : TextTest} {value other : String}
  {caseSensitive showNull : Bool}

/-- What a character of a value is compared as. -/
def comparedAs (caseSensitive : Bool) (char : Char) : List Char :=
  if caseSensitive then [char] else Text.loosened char

/-- The texts that are compared are put together from the characters of the value. -/
theorem comparable_make :
    (make column test value caseSensitive false showNull).comparable
        (make column test value caseSensitive false showNull).value =
      value.toList.flatMap (comparedAs caseSensitive) := by
  cases caseSensitive with
  | true => exact (List.flatMap_singleton' value.toList).symm
  | false => exact Text.fold_lower value

theorem accepts_of_narrows (hnarrows : test.Narrows value.toList wider other.toList)
    {field : FieldValue}
    (haccepts : (make column test value caseSensitive false showNull).accepts field = true) :
    (make column wider other caseSensitive false showNull).accepts field = true := by
  cases htext : field.comparedText with
  | none =>
      rw [accepts, htext] at haccepts ⊢
      exact haccepts
  | some text =>
      rw [accepts_make_of_some htext, matchesText, comparable_make] at haccepts ⊢
      exact (hnarrows.flatMap (comparedAs caseSensitive)).holds haccepts

/-- A longer value selects no more, with case and without: what begins with a text begins with
every prefix of it, and likewise at the end and within.  For one value, what is equal to it begins
and ends with it, and what begins or ends with it contains it. -/
theorem select_isSubset_of_longer (column : String) (caseSensitive showNull : Bool)
    (catalog : Catalog) (hcolumn : catalog.hasColumn column = true) :
    ∃ selected : TextTest → String → IdSet,
      (∀ test value, (Condition.text
        (make column test value caseSensitive false showNull)).select catalog =
          .ok (selected test value)) ∧
      (∀ value longer : String, value.toList <+: longer.toList →
        (selected .startsWith longer).isSubset (selected .startsWith value) = true) ∧
      (∀ value longer : String, value.toList <:+ longer.toList →
        (selected .endsWith longer).isSubset (selected .endsWith value) = true) ∧
      (∀ value longer : String, value.toList <:+: longer.toList →
        (selected .contains longer).isSubset (selected .contains value) = true) ∧
      ∀ value,
        (selected .exact value).isSubset (selected .startsWith value) = true ∧
        (selected .exact value).isSubset (selected .endsWith value) = true ∧
        (selected .startsWith value).isSubset (selected .contains value) = true ∧
        (selected .endsWith value).isSubset (selected .contains value) = true := by
  let selected (test : TextTest) (value : String) : IdSet := catalog.idsWhere fun record =>
    (make column test value caseSensitive false showNull).accepts (record.value column)
  have hsubset : ∀ {test wider : TextTest} {value other : String},
      test.Narrows value.toList wider other.toList →
        (selected test value).isSubset (selected wider other) = true :=
    fun hnarrows => Catalog.isSubset_idsWhere fun _ => accepts_of_narrows hnarrows
  refine ⟨selected, fun test value => Condition.select_eq _ catalog hcolumn, ?_, ?_, ?_, ?_⟩
  · exact fun value longer hbegins => hsubset (.startsWith hbegins)
  · exact fun value longer hends => hsubset (.endsWith hends)
  · exact fun value longer hinside => hsubset (.contains hinside)
  · exact fun value => ⟨hsubset .exactStart, hsubset .exactEnd, hsubset .startWithin,
      hsubset .endWithin⟩

/-- Two names, one of which goes on where the other ends. -/
def namesInGreek : Catalog :=
  .ofSteps [.add ⟨1, .ofList [("name", .text "Οδυσσεας")], [], []⟩,
    .add ⟨2, .ofList [("name", .text "οδυσ")], [], []⟩]

/-- One value begins with the other, and its lower case does not begin with that of the other. -/
theorem select_isSubset_of_longer_sigma :
    namesInGreek.hasColumn "name" = true ∧ "ΟΔΥΣ".toList <+: "ΟΔΥΣΣ".toList ∧
      ¬(Text.lower "ΟΔΥΣ").toList <+: (Text.lower "ΟΔΥΣΣ").toList ∧
      ∃ longer value : IdSet,
        (Condition.text (make "name" .startsWith "ΟΔΥΣΣ" false false false)).select namesInGreek =
          .ok longer ∧
        (Condition.text (make "name" .startsWith "ΟΔΥΣ" false false false)).select namesInGreek =
          .ok value ∧
        longer.isSubset value = true ∧ longer.toList = [1] ∧ value.toList = [1, 2] := by
  have hcolumn : namesInGreek.hasColumn "name" = true := by decide +kernel
  have hbegins : "ΟΔΥΣ".toList <+: "ΟΔΥΣΣ".toList := by decide +kernel
  obtain ⟨selected, hselect, hstart, -⟩ :=
    select_isSubset_of_longer "name" false false namesInGreek hcolumn
  have hlonger : ∃ longer : IdSet, longer.toList = [1] ∧
      (Condition.text (make "name" .startsWith "ΟΔΥΣΣ" false false false)).select namesInGreek =
        .ok longer := ⟨.ofList [1], rfl, by decide +kernel⟩
  have hvalue : ∃ value : IdSet, value.toList = [1, 2] ∧
      (Condition.text (make "name" .startsWith "ΟΔΥΣ" false false false)).select namesInGreek =
        .ok value := ⟨.ofList [1, 2], rfl, by decide +kernel⟩
  obtain ⟨longer, hlongerList, hlonger⟩ := hlonger
  obtain ⟨value, hvalueList, hvalue⟩ := hvalue
  refine ⟨hcolumn, hbegins, by decide +kernel, longer, value, hlonger, hvalue, ?_, hlongerList,
    hvalueList⟩
  cases (hselect .startsWith "ΟΔΥΣΣ").symm.trans hlonger
  cases (hselect .startsWith "ΟΔΥΣ").symm.trans hvalue
  exact hstart "ΟΔΥΣ" "ΟΔΥΣΣ" hbegins

end TextCondition

end FacetFilter
