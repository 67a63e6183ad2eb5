import Mathlib.Data.List.Induction
import FacetFilter.Proofs.Membership
import FacetFilter.Catalog

/-!
# What the steps of a catalog build

A catalog is known by two views: the record that it has under an id and the columns
of its schema.  Each step changes them in one place, so after any steps the record of
an id is the last that was added with it, and a column is in the schema where some
step brought it.
-/

namespace FacetFilter.Catalog

/-- The record that a step adds. -/
def Step.record? : Step → Option Record
  | .declare _ => none
  | .add record => some record

/-- The columns that a step brings into the schema. -/
def Step.columns : Step → List String
  | .declare column => [column]
  | .add record => record.fields.keys.toList

theorem hasColumn_iff {catalog : Catalog} {column : String} :
    catalog.hasColumn column = true ↔ column ∈ catalog.columns := by
  rw [hasColumn, Ascending.contains_iff]
  simp

theorem Step.mem_columns {step : Step} {column : String} :
    column ∈ step.columns ↔
      step = .declare column ∨
        ∃ record, step = .add record ∧ ∃ value, (column, value) ∈ record.fields := by
  cases step with
  | declare other => simp [columns, eq_comm]
  | add record => simp [columns, Ascending.mem_keys]

/-! ## One step -/

theorem columns_perform (catalog : Catalog) (step : Step) :
    (catalog.perform step).columns = catalog.columns.insertMany step.columns := by
  cases step <;> rfl

/-- A record that is added stands under its id, and no other id is touched. -/
theorem find?_perform (catalog : Catalog) (step : Step) (id : EntityId) :
    (catalog.perform step).find? id =
      (step.record?.filter (·.id == id)).or (catalog.find? id) := by
  cases step with
  | declare column => rfl
  | add record =>
      change (catalog.records.insert record).find? id = _
      rw [Ascending.find?_insert, Step.record?, Option.filter_some]
      by_cases hid : record.id = id
      · simp [hid]
      · simp [hid, find?]

/-! ## All steps -/

variable {steps : List Step}

theorem ofSteps_append_singleton (steps : List Step) (step : Step) :
    ofSteps (steps ++ [step]) = (ofSteps steps).perform step := by
  rw [ofSteps, List.foldl_append]
  rfl

/-- The schema holds what some step brought. -/
theorem mem_columns_ofSteps {column : String} :
    column ∈ (ofSteps steps).columns ↔ ∃ step ∈ steps, column ∈ step.columns := by
  induction steps using List.reverseRecOn with
  | nil => simp [ofSteps, empty]
  | append_singleton steps step ih =>
      rw [ofSteps_append_singleton, columns_perform, Ascending.mem_insertMany, ih]
      simp [or_and_right, exists_or]

theorem hasColumn_ofSteps {column : String} :
    (ofSteps steps).hasColumn column = true ↔
      .declare column ∈ steps ∨
        ∃ record, .add record ∈ steps ∧ ∃ value, (column, value) ∈ record.fields := by
  rw [hasColumn_iff, mem_columns_ofSteps]
  simp only [Step.mem_columns, and_or_left, exists_or, exists_eq_right]
  refine or_congr_right ⟨?_, ?_⟩
  · rintro ⟨_, hmem, record, rfl, hfield⟩
    exact ⟨record, hmem, hfield⟩
  · rintro ⟨record, hmem, hfield⟩
    exact ⟨_, hmem, record, rfl, hfield⟩

/-- Under an id stands the last record that was added with it. -/
theorem find?_ofSteps (steps : List Step) (id : EntityId) :
    (ofSteps steps).find? id =
      (steps.filterMap Step.record?).reverse.find? (·.id == id) := by
  induction steps using List.reverseRecOn with
  | nil => rfl
  | append_singleton steps step ih =>
      rw [ofSteps_append_singleton, find?_perform, ih, List.filterMap_append,
        List.reverse_append, List.find?_append]
      congr 1
      cases step with
      | declare column => rfl
      | add record =>
          rw [Step.record?, Option.filter_some]
          by_cases hid : record.id = id <;> simp [Step.record?, hid]

end FacetFilter.Catalog
