import FacetFilter.Proofs.Catalog.Steps

/-!
# The views of a catalog

A catalog is looked at by id, by column, by kind of label and by selection.  Every view
comes down to two of them, the record under an id and the columns of the schema, and
these are told by the steps that built the catalog: the ids are those that records were
added with, each view goes through them in ascending order, and under each of them
stands the record that was added last.

Steps that touch different places of a catalog may therefore be swapped.  Only two
records with one id stand in each other's way.
-/

namespace FacetFilter

/-- A record without a field for a column reads as null there. -/
def Record.Reads (record : Record) (column : String) (value : FieldValue) : Prop :=
  (column, value) ∈ record.fields ∨
    value = .null ∧ ∀ other, (column, other) ∉ record.fields

theorem Record.reads_value (record : Record) (column : String) :
    record.Reads column (record.value column) := by
  rw [Record.value]
  cases hfind : record.fields.find? column with
  | none =>
      refine .inr ⟨rfl, fun other hmem => ?_⟩
      have hsome : record.fields.find? column = some (column, other) :=
        Ascending.find?_of_mem hmem
      cases hfind.symm.trans hsome
  | some field =>
      obtain ⟨hmem, rfl⟩ := Ascending.find?_eq_some_iff.mp hfind
      exact .inl hmem

namespace Catalog

/-! ## The views from the ids and their records -/

section Views

variable {catalog : Catalog} {id : EntityId} {record : Record}

theorem isSome_find?_iff : (catalog.find? id).isSome = true ↔ id ∈ catalog.ids :=
  Ascending.mem_keys_iff_isSome_find?.symm

theorem id_of_find? (hfind : catalog.find? id = some record) : record.id = id :=
  (Ascending.find?_eq_some_iff.mp hfind).2

theorem pairwise_ids (members : IdSet) :
    members.toList.Pairwise fun first second => first < second :=
  members.ascending.imp Std.compare_eq_lt.mp

theorem isSome_scan? (catalog : Catalog) (column : String) :
    (catalog.scan? column).isSome = catalog.hasColumn column := by
  rw [scan?]
  cases catalog.hasColumn column <;> rfl

theorem eq_of_scan? {column : String} {rows : List (EntityId × FieldValue)}
    (hscan : catalog.scan? column = some rows) :
    rows = catalog.records.toList.map fun record => (record.id, record.value column) := by
  obtain ⟨-, hrows⟩ := Option.ite_none_right_eq_some.mp hscan
  exact (Option.some.inj hrows).symm

theorem ids_of_scan? {column : String} {rows : List (EntityId × FieldValue)}
    (hscan : catalog.scan? column = some rows) : rows.map Prod.fst = catalog.ids.toList := by
  rw [eq_of_scan? hscan]
  exact List.map_map

theorem find?_of_mem_scan? {column : String} {rows : List (EntityId × FieldValue)}
    (hscan : catalog.scan? column = some rows) {row : EntityId × FieldValue} (hrow : row ∈ rows) :
    ∃ record, catalog.find? row.1 = some record ∧ record.Reads column row.2 := by
  rw [eq_of_scan? hscan] at hrow
  obtain ⟨record, hmem, rfl⟩ := List.mem_map.mp hrow
  exact ⟨record, Ascending.find?_of_mem hmem, record.reads_value column⟩

theorem labelRows_eq_flatMap (catalog : Catalog) (kind : LabelKind) :
    catalog.labelRows kind = catalog.ids.toList.flatMap fun id =>
      ((catalog.find? id).elim [] fun record => record.labels kind).map fun label =>
        (id, label) := by
  change _ = (catalog.records.toList.map Record.id).flatMap _
  rw [labelRows, List.flatMap_map]
  apply List.flatMap_congr
  intro record hmem
  have hfind : catalog.find? record.id = some record :=
    Ascending.find?_of_mem hmem
  rw [hfind]
  rfl

theorem mem_recordsOf {selection : IdSet} :
    record ∈ catalog.recordsOf selection ↔
      catalog.find? record.id = some record ∧ record.id ∈ selection := by
  rw [recordsOf, List.mem_filterMap]
  constructor
  · rintro ⟨id, hmem, hfind⟩
    cases id_of_find? hfind
    exact ⟨hfind, hmem⟩
  · rintro ⟨hfind, hmem⟩
    exact ⟨record.id, hmem, hfind⟩

theorem pairwise_recordsOf (catalog : Catalog) (selection : IdSet) :
    (catalog.recordsOf selection).Pairwise fun first second => first.id < second.id := by
  apply (pairwise_ids selection).filterMap
  intro first second hlt firstRecord hfirst secondRecord hsecond
  rw [id_of_find? hfirst, id_of_find? hsecond]
  exact hlt

end Views

/-! ## The record that was added last -/

/-- The steps add the record, and no record with its id after it. -/
def LastAdded (steps : List Step) (record : Record) : Prop :=
  ∃ before after, steps = before ++ .add record :: after ∧
    ∀ other, .add other ∈ after → other.id ≠ record.id

theorem Step.record?_eq_some_iff {step : Step} {record : Record} :
    step.record? = some record ↔ step = .add record := by
  cases step <;> simp [Step.record?]

theorem mem_filterMap_record? {steps : List Step} {record : Record} :
    record ∈ steps.filterMap Step.record? ↔ .add record ∈ steps := by
  simp [List.mem_filterMap, Step.record?_eq_some_iff]

theorem lastAdded_iff {steps : List Step} {record : Record} :
    LastAdded steps record ↔
      (steps.filterMap Step.record?).reverse.find? (·.id == record.id) = some record := by
  rw [List.find?_eq_some_iff_append]
  constructor
  · rintro ⟨before, after, rfl, hlast⟩
    refine ⟨by simp, (after.filterMap Step.record?).reverse, (before.filterMap Step.record?).reverse,
      by simp [Step.record?], fun other hother => ?_⟩
    have hadded := mem_filterMap_record?.mp (List.mem_reverse.mp hother)
    simpa using hlast other hadded
  · -- The records are searched from the last one, so what stands before the hit came after it.
    rintro ⟨-, behind, front, hlist, hbehind⟩
    rw [List.reverse_eq_iff, List.reverse_append, List.reverse_cons, List.append_assoc,
      List.singleton_append, List.filterMap_eq_append_iff] at hlist
    obtain ⟨start, rest, rfl, -, hrest⟩ := hlist
    obtain ⟨declared, step, after, rfl, -, hstep, hafter⟩ := List.filterMap_eq_cons_iff.mp hrest
    rw [Step.record?_eq_some_iff] at hstep
    subst hstep
    refine ⟨start ++ declared, after, by simp, fun other hother => ?_⟩
    have hmem : other ∈ behind := by
      rw [← List.mem_reverse, ← hafter]
      exact mem_filterMap_record?.mpr hother
    simpa using hbehind other hmem

variable {steps : List Step}

theorem find?_ofSteps_eq_some_iff {id : EntityId} {record : Record} :
    (ofSteps steps).find? id = some record ↔ LastAdded steps record ∧ record.id = id := by
  rw [lastAdded_iff]
  constructor
  · intro hfind
    have hid := id_of_find? hfind
    rw [find?_ofSteps, ← hid] at hfind
    exact ⟨hfind, hid⟩
  · rintro ⟨hlast, rfl⟩
    rw [find?_ofSteps, hlast]

theorem mem_ids_ofSteps {id : EntityId} :
    id ∈ (ofSteps steps).ids ↔ ∃ record, .add record ∈ steps ∧ record.id = id := by
  rw [← isSome_find?_iff, find?_ofSteps, List.find?_isSome]
  simp [Step.record?_eq_some_iff]

/-! ## Swapped steps -/

/-- Two catalogs with the same schema and the same record under each id are the same. -/
theorem ext_of_views {left right : Catalog}
    (hcolumns : ∀ column, column ∈ left.columns ↔ column ∈ right.columns)
    (hfind : ∀ id, left.find? id = right.find? id) : left = right := by
  cases left
  cases right
  congr
  · exact Ascending.ext_of_mem hcolumns
  · exact Ascending.ext_of_find? hfind

/-- Both steps add a record with one and the same id. -/
def Step.Rivals : Step → Step → Prop
  | .add first, .add second => first.id = second.id
  | _, _ => False

instance : (first second : Step) → Decidable (first.Rivals second)
  | .add first, .add second => inferInstanceAs (Decidable (first.id = second.id))
  | .add _, .declare _ | .declare _, _ => inferInstanceAs (Decidable False)

theorem perform_comm {first second : Step} (hrivals : ¬first.Rivals second) (catalog : Catalog) :
    (catalog.perform first).perform second = (catalog.perform second).perform first := by
  apply ext_of_views
  · intro column
    simp only [columns_perform, Ascending.mem_insertMany]
    exact or_right_comm
  · intro id
    simp only [find?_perform]
    cases first with
    | declare column => rfl
    | add first =>
        cases second with
        | declare column => rfl
        | add second =>
            -- At most one of the two records stands under the id that is looked up.
            change first.id ≠ second.id at hrivals
            by_cases hfirst : first.id = id
            · have hsecond : second.id ≠ id := fun hid => hrivals (hfirst.trans hid.symm)
              simp [Step.record?, Option.filter_some, hfirst, hsecond]
            · simp [Step.record?, Option.filter_some, hfirst]

theorem ofSteps_swap {first second : Step} (hrivals : ¬first.Rivals second)
    (before after : List Step) :
    ofSteps (before ++ first :: second :: after) = ofSteps (before ++ second :: first :: after) := by
  simp only [ofSteps, List.foldl_append, List.foldl_cons]
  rw [perform_comm hrivals]

/-! ## All views together -/

/-- Each view of the catalog shows what the steps brought, and nothing else. -/
structure Reflects (catalog : Catalog) (steps : List Step) : Prop where
  find?_iff : ∀ id record,
    catalog.find? id = some record ↔ LastAdded steps record ∧ record.id = id
  isSome_find?_iff : ∀ id, (catalog.find? id).isSome = true ↔ id ∈ catalog.ids
  mem_ids_iff : ∀ id, id ∈ catalog.ids ↔ ∃ record, .add record ∈ steps ∧ record.id = id
  ids_ascending : catalog.ids.toList.Pairwise fun first second => first < second
  size_eq : catalog.size = catalog.ids.size
  hasColumn_iff : ∀ column, catalog.hasColumn column = true ↔
    .declare column ∈ steps ∨
      ∃ record, .add record ∈ steps ∧ ∃ value, (column, value) ∈ record.fields
  isSome_scan? : ∀ column, (catalog.scan? column).isSome = catalog.hasColumn column
  /-- A scan has one row for each id, with what the record under it reads as. -/
  scanned : ∀ column rows, catalog.scan? column = some rows →
    rows.map Prod.fst = catalog.ids.toList ∧
      ∀ row ∈ rows, ∃ record, catalog.find? row.1 = some record ∧ record.Reads column row.2
  /-- The labels of each record stay together and in their order. -/
  labelRows_eq : ∀ kind, catalog.labelRows kind = catalog.ids.toList.flatMap fun id =>
    ((catalog.find? id).elim [] fun record => record.labels kind).map fun label => (id, label)
  mem_recordsOf_iff : ∀ selection record, record ∈ catalog.recordsOf selection ↔
    catalog.find? record.id = some record ∧ record.id ∈ selection
  recordsOf_ascending : ∀ selection,
    (catalog.recordsOf selection).Pairwise fun first second => first.id < second.id

/-- The views of a catalog agree with each other and with the steps that built it, and steps
that do not add records with one id may be swapped. -/
theorem ofSteps_reflects_and_swap (steps : List Step) :
    (ofSteps steps).Reflects steps ∧
      ∀ before first second after, steps = before ++ first :: second :: after →
        ¬first.Rivals second → ofSteps (before ++ second :: first :: after) = ofSteps steps := by
  have hreflects : (ofSteps steps).Reflects steps :=
    { find?_iff := fun _ _ => find?_ofSteps_eq_some_iff
      isSome_find?_iff := fun _ => isSome_find?_iff
      mem_ids_iff := fun _ => mem_ids_ofSteps
      ids_ascending := pairwise_ids _
      size_eq := (List.length_map _).symm
      hasColumn_iff := fun _ => hasColumn_ofSteps
      isSome_scan? := isSome_scan? _
      scanned := fun _ _ hscan =>
        ⟨ids_of_scan? hscan, fun _ hrow => find?_of_mem_scan? hscan hrow⟩
      labelRows_eq := labelRows_eq_flatMap _
      mem_recordsOf_iff := fun _ _ => mem_recordsOf
      recordsOf_ascending := pairwise_recordsOf _ }
  refine ⟨hreflects, fun before first second after hsteps hrivals => ?_⟩
  rw [hsteps]
  exact (ofSteps_swap hrivals before after).symm

/-- A record that loses its price and its tag to another one, with an entity in between. -/
def repricedSteps : List Step :=
  [.declare "weight", .add ⟨7, Ascending.ofList [("price", .bool true)], ["old"], []⟩,
    .add ⟨3, .empty, [], ["red"]⟩, .add ⟨7, .empty, ["new", "a"], []⟩]

theorem ofSteps_reflects_and_swap_repriced :
    (ofSteps repricedSteps).hasColumn "price" = true ∧
      ((ofSteps repricedSteps).find? 7).map Record.tags = some ["new", "a"] ∧
        ¬(repricedSteps[1].Rivals repricedSteps[2]) ∧
          ofSteps [repricedSteps[0], repricedSteps[2], repricedSteps[1], repricedSteps[3]] =
            ofSteps repricedSteps := by
  have hrivals : ¬(repricedSteps[1].Rivals repricedSteps[2]) := by decide
  obtain ⟨hreflects, hswap⟩ := ofSteps_reflects_and_swap repricedSteps
  refine ⟨?_, ?_, hrivals, hswap [repricedSteps[0]] _ _ [repricedSteps[3]] rfl hrivals⟩
  · exact (hreflects.hasColumn_iff "price").mpr
      (.inr ⟨_, List.mem_cons_of_mem _ List.mem_cons_self, .bool true, by decide⟩)
  · have hlast : LastAdded repricedSteps ⟨7, .empty, ["new", "a"], []⟩ :=
      ⟨repricedSteps.take 3, [], rfl, fun _ hadded => absurd hadded List.not_mem_nil⟩
    rw [(hreflects.find?_iff 7 _).mpr ⟨hlast, rfl⟩]
    rfl

end Catalog

end FacetFilter
