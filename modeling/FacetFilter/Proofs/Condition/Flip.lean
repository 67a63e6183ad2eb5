import FacetFilter.Proofs.Condition.Locality
import FacetFilter.Proofs.Program.Expansion
import FacetFilter.Proofs.Query.Expression

/-!
# Where flipping is negation

A flipped condition selects the rest of the catalog exactly where no entity falls
through both: every field has to hold a value of the kind that the condition tests.
A null is selected by both or by neither, and a number that does not compare by
neither.
-/

namespace FacetFilter

/-- The leaf tests values of the kind of the field: any value but null for a text leaf, a truth
value for a flag leaf, and for a number leaf a number that compares with its literal. -/
inductive Leaf.Fits : Leaf → FieldValue → Prop where
  | text {leaf : ColumnLeaf} {field : FieldValue} (hfield : field ≠ .null) :
      Fits (.text leaf) field
  | number {leaf : ColumnLeaf} {literal : Literal} {bound value : Binary64}
      (hliteral : leaf.value = some literal) (hbound : literal.toNumber? = some bound)
      (hboundOrdered : bound ≠ .nan) (hvalueOrdered : value ≠ .nan) :
      Fits (.number leaf) (.number value)
  | flag {leaf : ColumnLeaf} {value : Bool} : Fits (.flag leaf) (.bool value)

theorem Binary64.exists_compare? {left right : Binary64} (hleft : left ≠ .nan)
    (hright : right ≠ .nan) : ∃ ordering, left.compare? right = some ordering := by
  have hposition : ∀ {value : Binary64}, value ≠ .nan → ∃ position, value.position = some position := by
    intro value hvalue
    cases value with
    | nan => exact absurd rfl hvalue
    | infinite | finite => exact ⟨_, rfl⟩
  obtain ⟨first, hfirst⟩ := hposition hleft
  obtain ⟨second, hsecond⟩ := hposition hright
  exact ⟨compare first second, by rw [compare?, hfirst, hsecond]⟩

namespace Condition

/-! ## Record by record -/

theorem accepts_flip_text {condition : TextCondition} {record : Record}
    (hfield : record.value condition.column ≠ .null) :
    (Condition.text condition).flip.accepts record = !(Condition.text condition).accepts record := by
  have htext : ∃ text, (record.value condition.column).comparedText = some text := by
    generalize record.value condition.column = field at hfield
    cases field with
    | null => exact absurd rfl hfield
    | bool | number | text => exact ⟨_, rfl⟩
  obtain ⟨text, htext⟩ := htext
  simp only [flip, accepts, TextCondition.accepts, htext]
  exact Bool.bne_not _ _

theorem accepts_flip_number {condition : NumberCondition} {record : Record} {value : Binary64}
    (hfield : record.value condition.column = .number value)
    (hvalue : value ≠ .nan) (hbound : condition.value ≠ .nan) :
    (Condition.number condition).flip.accepts record =
      !(Condition.number condition).accepts record := by
  obtain ⟨ordering, hordering⟩ := Binary64.exists_compare? hvalue hbound
  simp only [flip, accepts, hfield, NumberCondition.accepts, FieldValue.compareNumber?, hordering]
  exact Bool.bne_not _ _

theorem accepts_flip_flag {condition : FlagCondition} {record : Record} {value : Bool}
    (hfield : record.value condition.column = .bool value) :
    (Condition.flag condition).flip.accepts record = !(Condition.flag condition).accepts record := by
  simp only [flip, accepts, hfield, FlagCondition.accepts]
  exact Bool.bne_not _ _

theorem isKnown_of_column {condition : Condition} {column : String}
    (hcolumn : condition.column? = some column) (catalog : Catalog) :
    condition.isKnown catalog = catalog.hasColumn column := by
  cases condition <;> cases hcolumn <;> rfl

/-- A condition is negated by its flip in a catalog whose records it never leaves undecided. -/
theorem flipsIn_of_accepts {condition : Condition} {catalog : Catalog}
    (hknown : condition.isKnown catalog = true)
    (haccepts : ∀ record ∈ catalog.records,
      condition.flip.accepts record = !condition.accepts record) :
    condition.FlipsIn catalog := by
  have hflipKnown : condition.flip.isKnown catalog = true := by
    cases condition <;> exact hknown
  apply Ascending.ext_of_mem
  intro id
  rw [IdSet.mem_complement]
  constructor
  · intro hmem
    have hid := condition.flip.selected_subset catalog id hmem
    obtain ⟨record, hrecord, rfl⟩ := Ascending.mem_keys.mp hid
    have hflip := ((mem_selected_iff hrecord).mp hmem).2
    rw [haccepts record hrecord] at hflip
    refine ⟨hid, fun hboth => ?_⟩
    rw [((mem_selected_iff hrecord).mp hboth).2] at hflip
    cases hflip
  · rintro ⟨hid, hnot⟩
    obtain ⟨record, hrecord, rfl⟩ := Ascending.mem_keys.mp hid
    rw [mem_selected_iff hrecord] at hnot ⊢
    refine ⟨hflipKnown, ?_⟩
    rw [haccepts record hrecord]
    simpa [hknown] using hnot

end Condition

namespace Query

/-- A condition decides each record whose value fits its leaf. -/
theorem accepts_flip_of_fits {settings : Settings} {leaf : Leaf} {condition : Condition}
    {column : String} {record : Record}
    (hcondition : leafCondition settings leaf = .ok condition)
    (hcolumn : leafColumn? settings leaf = some column)
    (hfits : leaf.Fits (record.value column)) :
    condition.flip.accepts record = !condition.accepts record := by
  rw [← column?_of_leafCondition hcondition] at hcolumn
  generalize hfield : record.value column = field at hfits
  cases hfits with
  | text hne =>
      obtain ⟨content, rfl, -⟩ := exists_text_of_leafCondition hcondition
      cases hcolumn
      exact Condition.accepts_flip_text (by rwa [hfield])
  | number hliteral hbound hboundOrdered hvalueOrdered =>
      obtain ⟨content, rfl, -, hvalue⟩ := exists_number_of_leafCondition hcondition
      cases hcolumn
      rw [hliteral, Option.bind_some, hbound] at hvalue
      cases hvalue
      exact Condition.accepts_flip_number hfield hvalueOrdered hboundOrdered
  | flag =>
      obtain ⟨content, rfl, -⟩ := exists_flag_of_leafCondition hcondition
      cases hcolumn
      exact Condition.accepts_flip_flag hfield

end Query

end FacetFilter
