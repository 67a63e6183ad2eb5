import FacetFilter.Proofs.Program.Selection

/-!
# Conditions record by record

Whether a condition selects an entity is a question about the record of that
entity alone, once the column or the label that the condition names is known in
the catalog.  Two catalogs that know the same names therefore agree on an entity
whose two records read alike.
-/

namespace FacetFilter

namespace Catalog

variable {catalog : Catalog} {accepts : Record → Bool}

theorem mem_idsWhere {id : EntityId} :
    id ∈ catalog.idsWhere accepts ↔ (catalog.find? id).any accepts = true := by
  rw [idsWhere, Ascending.mem_keys_filter, find?]

theorem mem_idsWhere_iff {record : Record} (hrecord : record ∈ catalog.records) :
    record.id ∈ catalog.idsWhere accepts ↔ accepts record = true := by
  have hfind : catalog.find? record.id = some record :=
    Ascending.find?_of_mem hrecord
  rw [mem_idsWhere, hfind, Option.any_some]

theorem isSubset_idsWhere {wider : Record → Bool}
    (himplies : ∀ record, accepts record = true → wider record = true) :
    (catalog.idsWhere accepts).isSubset (catalog.idsWhere wider) = true := by
  rw [IdSet.isSubset_iff]
  intro id hid
  rw [mem_idsWhere, Option.any_eq_true] at hid ⊢
  obtain ⟨record, hrecord, haccepts⟩ := hid
  exact ⟨record, hrecord, himplies record haccepts⟩

end Catalog

namespace Condition

/-- The label that is asked for, with its kind; only label conditions ask for one. -/
def label? : Condition → Option (LabelKind × String)
  | .label kind condition => some (kind, condition.value)
  | _ => none

/-- Whether the catalog has the column, or the label, that the condition names. -/
def isKnown (condition : Condition) (catalog : Catalog) : Bool :=
  match condition with
  | .text condition => catalog.hasColumn condition.column
  | .number condition => catalog.hasColumn condition.column
  | .flag condition => catalog.hasColumn condition.column
  | .label kind condition => catalog.hasLabel kind condition.value

/-- Whether the condition holds of a record. -/
def accepts (condition : Condition) (record : Record) : Bool :=
  match condition with
  | .text condition => condition.accepts (record.value condition.column)
  | .number condition => condition.accepts (record.value condition.column)
  | .flag condition => condition.accepts (record.value condition.column)
  | .label kind condition => condition.accepts (record.labels kind)

/-- Where its name is known, a condition selects the entities whose records it holds of. -/
theorem select_eq (condition : Condition) (catalog : Catalog) (hknown : condition.isKnown catalog) :
    condition.select catalog = .ok (catalog.idsWhere condition.accepts) := by
  cases condition with
  | text | number | flag =>
      rw [select, selectColumn]
      exact if_pos hknown
  | label kind condition =>
      rw [select, LabelCondition.select]
      exact if_pos hknown

theorem selected_of_not_known (condition : Condition) (catalog : Catalog)
    (hknown : ¬condition.isKnown catalog) : condition.selected catalog = .empty := by
  have hselect : ∃ fault, condition.select catalog = .error fault := by
    cases condition with
    | text | number | flag =>
        rw [select, selectColumn]
        exact ⟨_, if_neg hknown⟩
    | label kind condition =>
        rw [select, LabelCondition.select]
        exact ⟨_, if_neg hknown⟩
  obtain ⟨fault, hfault⟩ := hselect
  rw [selected, hfault]

theorem mem_selected_iff {condition : Condition} {catalog : Catalog} {record : Record}
    (hrecord : record ∈ catalog.records) :
    record.id ∈ condition.selected catalog ↔
      condition.isKnown catalog = true ∧ condition.accepts record = true := by
  by_cases hknown : condition.isKnown catalog = true
  · rw [selected, select_eq condition catalog hknown, Catalog.mem_idsWhere_iff hrecord]
    exact (and_iff_right hknown).symm
  · rw [selected_of_not_known condition catalog hknown]
    exact iff_of_false (Ascending.not_mem_empty _) fun hboth => hknown hboth.1

/-! ## Records that read alike -/

/-- The order of the labels of a record does not matter. -/
theorem accepts_labels_of_perm (condition : LabelCondition) {labels others : List String}
    (hperm : labels.Perm others) : condition.accepts labels = condition.accepts others := by
  have hcontains : labels.contains condition.value = others.contains condition.value :=
    hperm.contains_eq
  rw [LabelCondition.accepts, LabelCondition.accepts]
  cases condition.test with
  | has => exact hperm.any_eq
  | hasOnly => rw [hcontains, hperm.length_eq]

theorem accepts_of_agree {condition : Condition} {record other : Record}
    (hcolumn : ∀ column, condition.column? = some column →
      record.value column = other.value column)
    (hlabels : ∀ kind label, condition.label? = some (kind, label) →
      (record.labels kind).Perm (other.labels kind)) :
    condition.accepts record = condition.accepts other := by
  cases condition with
  | text | number | flag => rw [accepts, accepts, hcolumn _ rfl]
  | label kind condition => exact accepts_labels_of_perm condition (hlabels kind _ rfl)

theorem isKnown_of_agree {condition : Condition} {first second : Catalog}
    (hcolumn : ∀ column, condition.column? = some column →
      first.hasColumn column = second.hasColumn column)
    (hlabels : ∀ kind label, condition.label? = some (kind, label) →
      first.hasLabel kind label = second.hasLabel kind label) :
    condition.isKnown first = condition.isKnown second := by
  cases condition with
  | text | number | flag => exact hcolumn _ rfl
  | label kind condition => exact hlabels kind _ rfl

end Condition

end FacetFilter
