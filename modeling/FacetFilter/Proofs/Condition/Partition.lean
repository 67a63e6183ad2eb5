import FacetFilter.Proofs.Condition.Flip
import FacetFilter.Proofs.Decimal.Rounding

/-!
# The three parts of a column

A condition on a column decides the values of its kind: it holds of a value or it does
not, and inverted it is the other way round.  Nulls are not decided but shown, by the
condition and its inversion alike, or else hidden from both.  A value that is neither
null nor decided is selected by nobody.
-/

namespace FacetFilter

theorem Binary64.isSome_compare? (left right : Binary64) :
    (left.compare? right).isSome = (decide (left ≠ .nan) && decide (right ≠ .nan)) := by
  by_cases hleft : left = .nan
  · rw [hleft]
    rfl
  by_cases hright : right = .nan
  · rw [hright, compare?]
    cases left.position <;> simp [position]
  · obtain ⟨ordering, hcompare⟩ := exists_compare? hleft hright
    rw [hcompare]
    simp [hleft, hright]

namespace Comparison

/-- The comparison that holds where this one does not. -/
def opposite : Comparison → Comparison
  | .equal => .notEqual
  | .notEqual => .equal
  | .less => .greaterOrEqual
  | .greaterOrEqual => .less
  | .greater => .lessOrEqual
  | .lessOrEqual => .greater

theorem holds_opposite (comparison : Comparison) (ordering : Ordering) :
    comparison.opposite.holds ordering = !comparison.holds ordering := by
  cases comparison <;> cases ordering <;> rfl

end Comparison

/-- Whether the field of a record in a column is absent or null. -/
def Record.lacks (record : Record) (column : String) : Bool :=
  (record.fields.find? column).all fun field => field.2 == .null

theorem Record.lacks_eq (record : Record) (column : String) :
    record.lacks column = (record.value column == .null) := by
  rw [lacks, value]
  cases record.fields.find? column <;> rfl

/-! ## Sets of ids by tests of records -/

namespace Catalog

variable {catalog : Catalog} {first second : Record → Bool}

theorem idsWhere_inter :
    (catalog.idsWhere first).inter (catalog.idsWhere second) =
      catalog.idsWhere fun record => first record && second record := by
  refine Ascending.ext_of_mem fun id => ?_
  rw [IdSet.mem_inter, mem_idsWhere, mem_idsWhere, mem_idsWhere]
  cases catalog.find? id <;> simp

theorem idsWhere_union :
    (catalog.idsWhere first).union (catalog.idsWhere second) =
      catalog.idsWhere fun record => first record || second record := by
  refine Ascending.ext_of_mem fun id => ?_
  rw [IdSet.mem_union, mem_idsWhere, mem_idsWhere, mem_idsWhere]
  cases catalog.find? id <;> simp

theorem idsWhere_false : (catalog.idsWhere fun _ => false) = .empty := by
  refine Ascending.ext_of_mem fun id => ?_
  rw [mem_idsWhere]
  cases catalog.find? id <;> simp

/-- The entities whose field in a column is absent or null. -/
def lacking (catalog : Catalog) (column : String) : IdSet :=
  catalog.idsWhere fun record => record.lacks column

end Catalog

/-! ## Verdicts -/

/-- The truth value that a flag condition looks at; no other value has one. -/
def FieldValue.truth? : FieldValue → Option Bool
  | .bool value => some value
  | _ => none

theorem TextCondition.accepts_eq_verdict (condition : TextCondition) (field : FieldValue) :
    condition.accepts field =
      ((field.comparedText.map condition.matchesText).any (· != condition.inverted) ||
        field == .null && condition.showNull) := by
  rw [accepts]
  cases field <;> simp [FieldValue.comparedText]

theorem NumberCondition.accepts_eq_verdict (condition : NumberCondition) (field : FieldValue) :
    condition.accepts field =
      (((field.compareNumber? condition.value).map condition.comparison.holds).any
          (· != condition.inverted) ||
        field == .null && condition.showNull) := by
  cases field with
  | null => simp [accepts, FieldValue.compareNumber?]
  | bool | text => simp [accepts, FieldValue.compareNumber?]
  | number value =>
      simp only [accepts, FieldValue.compareNumber?]
      cases value.compare? condition.value <;> simp

theorem FlagCondition.accepts_eq_verdict (condition : FlagCondition) (field : FieldValue) :
    condition.accepts field =
      (field.truth?.any (· != condition.inverted) || field == .null && condition.showNull) := by
  cases field <;> simp [accepts, FieldValue.truth?]

namespace Condition

/-- The condition with nulls shown or hidden.  To a label condition nothing is null. -/
def showingNulls (shown : Bool) : Condition → Condition
  | .text condition => .text { condition with showNull := shown }
  | .number condition => .number { condition with showNull := shown }
  | .flag condition => .flag { condition with showNull := shown }
  | .label kind condition => .label kind condition

/-- Whether a value is of the kind that the condition tests: any value but null for a text, a truth
value for a flag, and for a number a number, where neither it nor the bound is a nan. -/
def decides : Condition → FieldValue → Bool
  | .text _, field => field != .null
  | .number condition, .number value => decide (value ≠ .nan) && decide (condition.value ≠ .nan)
  | .flag _, .bool _ => true
  | _, _ => false

/-- What the condition says of a value, its inversion left aside. -/
def verdict? : Condition → FieldValue → Option Bool
  | .text condition, field => field.comparedText.map condition.matchesText
  | .number condition, field =>
      (field.compareNumber? condition.value).map condition.comparison.holds
  | .flag _, field => field.truth?
  | .label _ _, _ => none

theorem isSome_verdict? (condition : Condition) (field : FieldValue) :
    (condition.verdict? field).isSome = condition.decides field := by
  cases condition with
  | text condition => cases field <;> rfl
  | number condition =>
      cases field with
      | number value => exact Option.isSome_map.trans (value.isSome_compare? condition.value)
      | null | bool | text => rfl
  | flag condition => cases field <;> rfl
  | label kind condition => rfl

theorem verdict?_null (condition : Condition) : condition.verdict? .null = none := by
  cases condition <;> rfl

section Changes

variable (condition : Condition) (shown : Bool)

theorem column?_flip : condition.flip.column? = condition.column? := by
  cases condition <;> rfl

theorem column?_showingNulls : (condition.showingNulls shown).column? = condition.column? := by
  cases condition <;> rfl

theorem verdict?_flip : condition.flip.verdict? = condition.verdict? := by
  funext field
  cases condition <;> rfl

theorem verdict?_showingNulls : (condition.showingNulls shown).verdict? = condition.verdict? := by
  funext field
  cases condition <;> rfl

theorem inverted_flip : condition.flip.inverted = !condition.inverted := by
  cases condition <;> rfl

theorem inverted_showingNulls : (condition.showingNulls shown).inverted = condition.inverted := by
  cases condition <;> rfl

end Changes

variable {condition : Condition} {column : String}

theorem showNull_showingNulls (hcolumn : condition.column? = some column) (shown : Bool) :
    (condition.showingNulls shown).showNull = shown := by
  cases condition with
  | text | number | flag => rfl
  | label => cases hcolumn

/-- A condition holds of a record by its verdict on the value, or because it shows nulls. -/
theorem accepts_eq_verdict (hcolumn : condition.column? = some column) (record : Record) :
    condition.accepts record =
      ((condition.verdict? (record.value column)).any (· != condition.inverted) ||
        record.lacks column && condition.showNull) := by
  rw [record.lacks_eq]
  cases condition with
  | text condition =>
      cases hcolumn
      exact condition.accepts_eq_verdict _
  | number condition =>
      cases hcolumn
      exact condition.accepts_eq_verdict _
  | flag condition =>
      cases hcolumn
      exact condition.accepts_eq_verdict _
  | label => cases hcolumn

/-! ## What is selected -/

variable {catalog : Catalog}

/-- The entities whose value in a column the condition decides. -/
def decided (condition : Condition) (column : String) (catalog : Catalog) : IdSet :=
  catalog.idsWhere fun record => condition.decides (record.value column)

/-- The entities of which the condition says that it holds or, inverted, that it does not. -/
def holding (condition : Condition) (column : String) (inverted : Bool) (catalog : Catalog) :
    IdSet :=
  catalog.idsWhere fun record => (condition.verdict? (record.value column)).any (· != inverted)

theorem select_showingNulls (hcolumn : condition.column? = some column)
    (hknown : catalog.hasColumn column = true) (shown : Bool) :
    (condition.showingNulls shown).select catalog =
      .ok (catalog.idsWhere fun record =>
        (condition.verdict? (record.value column)).any (· != condition.inverted) ||
          record.lacks column && shown) := by
  have hshown : (condition.showingNulls shown).column? = some column :=
    (condition.column?_showingNulls shown).trans hcolumn
  rw [select_eq _ _ ((isKnown_of_column hshown catalog).trans hknown)]
  congr 2
  funext record
  rw [accepts_eq_verdict hshown, verdict?_showingNulls, inverted_showingNulls,
    showNull_showingNulls hcolumn]

/-- With nulls hidden a condition selects what it holds of. -/
theorem select_hidingNulls (hcolumn : condition.column? = some column)
    (hknown : catalog.hasColumn column = true) :
    (condition.showingNulls false).select catalog =
      .ok (condition.holding column condition.inverted catalog) := by
  simp only [select_showingNulls hcolumn hknown, Bool.and_false, Bool.or_false, holding]

/-- With nulls shown it selects the entities without a value besides. -/
theorem select_withNulls (hcolumn : condition.column? = some column)
    (hknown : catalog.hasColumn column = true) :
    (condition.showingNulls true).select catalog =
      .ok ((condition.holding column condition.inverted catalog).union
        (catalog.lacking column)) := by
  simp only [select_showingNulls hcolumn hknown, Bool.and_true, holding, Catalog.lacking,
    Catalog.idsWhere_union]

theorem holding_inter (condition : Condition) (column : String) (inverted : Bool)
    (catalog : Catalog) :
    (condition.holding column inverted catalog).inter
      (condition.holding column (!inverted) catalog) = .empty := by
  rw [holding, holding, Catalog.idsWhere_inter, ← catalog.idsWhere_false]
  congr 1
  funext record
  cases condition.verdict? (record.value column) with
  | none => rfl
  | some verdict => cases verdict <;> cases inverted <;> rfl

theorem holding_union (condition : Condition) (column : String) (inverted : Bool)
    (catalog : Catalog) :
    (condition.holding column inverted catalog).union
      (condition.holding column (!inverted) catalog) = condition.decided column catalog := by
  rw [holding, holding, Catalog.idsWhere_union, decided]
  congr 1
  funext record
  rw [← isSome_verdict?]
  cases condition.verdict? (record.value column) with
  | none => rfl
  | some verdict => cases verdict <;> cases inverted <;> rfl

theorem holding_inter_lacking (condition : Condition) (column : String) (inverted : Bool)
    (catalog : Catalog) :
    (condition.holding column inverted catalog).inter (catalog.lacking column) = .empty := by
  rw [holding, Catalog.lacking, Catalog.idsWhere_inter, ← catalog.idsWhere_false]
  congr 1
  funext record
  rw [record.lacks_eq]
  by_cases hnull : record.value column = .null
  · rw [hnull, verdict?_null]
    rfl
  · rw [beq_eq_false_iff_ne.mpr hnull, Bool.and_false]

theorem mem_of_select (hcolumn : condition.column? = some column)
    (hknown : catalog.hasColumn column = true) {members : IdSet}
    (hselect : condition.select catalog = .ok members) {id : EntityId} (hid : id ∈ members) :
    id ∈ catalog.lacking column ∨ id ∈ condition.decided column catalog := by
  have hself : condition.showingNulls condition.showNull = condition := by
    cases condition <;> rfl
  rw [← holding_union condition column condition.inverted, IdSet.mem_union]
  rw [← hself] at hselect
  cases hshown : condition.showNull with
  | false =>
      rw [hshown, select_hidingNulls hcolumn hknown] at hselect
      cases hselect
      exact .inr (.inl hid)
  | true =>
      rw [hshown, select_withNulls hcolumn hknown] at hselect
      cases hselect
      rcases IdSet.mem_union.mp hid with hheld | hlacking
      · exact .inr (.inl hheld)
      · exact .inl hlacking

/-- To invert a comparison is to make the opposite one. -/
theorem select_flip_number (condition : NumberCondition) (catalog : Catalog) :
    (Condition.number condition).flip.select catalog =
      (Condition.number
        { condition with comparison := condition.comparison.opposite }).select catalog := by
  have haccepts : { condition with inverted := !condition.inverted }.accepts =
      { condition with comparison := condition.comparison.opposite }.accepts := by
    funext field
    rw [NumberCondition.accepts_eq_verdict, NumberCondition.accepts_eq_verdict]
    cases field.compareNumber? condition.value with
    | none => rfl
    | some ordering =>
        simp only [Option.map_some, Option.any_some, Comparison.holds_opposite]
        rw [Bool.bne_not, Bool.not_bne]
  exact congrArg (selectColumn condition.column · catalog) haccepts

/-- A condition on a column and its inversion share out the entities whose values they decide; with
nulls shown, both select those besides that have no value, and nothing else is ever selected.  For
a number condition, the inversion selects what the opposite comparison does. -/
theorem select_partition (condition : Condition) (column : String) (catalog : Catalog)
    (hcolumn : condition.column? = some column) (hknown : catalog.hasColumn column = true) :
    (∃ selected flipped : IdSet,
      (condition.showingNulls false).select catalog = .ok selected ∧
      (condition.flip.showingNulls false).select catalog = .ok flipped ∧
      (selected.inter flipped = .empty ∧
        selected.union flipped = condition.decided column catalog) ∧
      (selected.inter (catalog.lacking column) = .empty ∧
        flipped.inter (catalog.lacking column) = .empty) ∧
      (condition.showingNulls true).select catalog =
        .ok (selected.union (catalog.lacking column)) ∧
      (condition.flip.showingNulls true).select catalog =
        .ok (flipped.union (catalog.lacking column))) ∧
    (∀ members, condition.select catalog = .ok members →
      ∀ id ∈ members, id ∈ catalog.lacking column ∨ id ∈ condition.decided column catalog) ∧
    ∀ content, condition = .number content →
      condition.flip.select catalog = (Condition.number
        { content with comparison := content.comparison.opposite }).select catalog := by
  have hflip : condition.flip.column? = some column := condition.column?_flip.trans hcolumn
  have hholding : condition.flip.holding column condition.flip.inverted catalog =
      condition.holding column (!condition.inverted) catalog := by
    rw [holding, verdict?_flip, inverted_flip, holding]
  refine ⟨⟨_, _, select_hidingNulls hcolumn hknown, select_hidingNulls hflip hknown, ?_⟩, ?_, ?_⟩
  · rw [hholding]
    refine ⟨⟨holding_inter .., holding_union ..⟩,
      ⟨holding_inter_lacking .., holding_inter_lacking ..⟩,
      select_withNulls hcolumn hknown, ?_⟩
    rw [select_withNulls hflip hknown, hholding]
  · exact fun members hselect id hid => mem_of_select hcolumn hknown hselect hid
  · rintro content rfl
    exact select_flip_number content catalog

/-- Scores of all kinds: above zero and below, a text, null, none at all and a nan. -/
def mixedScores : Catalog :=
  .ofSteps [.add ⟨1, .ofList [("score", .number (.finite false 1 representable_one))], [], []⟩,
    .add ⟨2, .ofList [("score", .text "low")], [], []⟩,
    .add ⟨3, .ofList [("score", .null)], [], []⟩,
    .add ⟨4, .empty, [], []⟩,
    .add ⟨5, .ofList [("score", .number .nan)], [], []⟩,
    .add ⟨6, .ofList [("score", .number (.finite true 1 representable_one))], [], []⟩]

def belowZero : NumberCondition := ⟨"score", .less, .zero, false, true⟩

/-- Neither the text nor the nan is below zero or not below it. -/
theorem select_partition_mixedScores :
    (Condition.number belowZero).column? = some "score" ∧
      mixedScores.hasColumn "score" = true ∧
      ∃ selected flipped : IdSet,
        selected.inter flipped = .empty ∧
        selected.union flipped = (Condition.number belowZero).decided "score" mixedScores ∧
        (Condition.number belowZero).select mixedScores =
          .ok (selected.union (mixedScores.lacking "score")) ∧
        (Condition.number { belowZero with comparison := .greaterOrEqual }).select mixedScores =
          .ok (flipped.union (mixedScores.lacking "score")) ∧
        selected.toList = [6] ∧ flipped.toList = [1] ∧
          (mixedScores.lacking "score").toList = [3, 4] := by
  have hknown : mixedScores.hasColumn "score" = true := by decide +kernel
  obtain ⟨⟨selected, flipped, hselected, hflipped, ⟨hinter, hunion⟩, -, hshown, hflippedShown⟩, -,
    hopposite⟩ := select_partition (.number belowZero) "score" mixedScores rfl hknown
  have hselectedList : selected.toList = [6] := by
    have hvalue : ((Condition.number belowZero).showingNulls false).select mixedScores =
        .ok (.ofList [6]) := by decide +kernel
    cases hvalue.symm.trans hselected
    rfl
  have hflippedList : flipped.toList = [1] := by
    have hvalue : ((Condition.number belowZero).flip.showingNulls false).select mixedScores =
        .ok (.ofList [1]) := by decide +kernel
    cases hvalue.symm.trans hflipped
    rfl
  exact ⟨rfl, hknown, selected, flipped, hinter, hunion, hshown,
    (hopposite belowZero rfl).symm.trans hflippedShown, hselectedList, hflippedList,
    by decide +kernel⟩

end Condition

end FacetFilter
