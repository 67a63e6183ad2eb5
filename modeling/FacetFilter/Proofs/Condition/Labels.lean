import FacetFilter.Proofs.Condition.Locality

/-!
# Entities by their labels

What a label condition selects is settled by how often each entity carries which
label.  The labels of a catalog come in rows, one for each label of each entity, and
the selection can be read off the rows in one pass, in whatever order they come:
`has` looks at each row by itself, `has_only` keeps a tally for each entity.
-/

namespace FacetFilter

/-- The labels of the entity among the rows, with repetitions. -/
def labelsAmong (rows : List (EntityId × String)) (id : EntityId) : List String :=
  (rows.filter (·.1 == id)).map Prod.snd

theorem labelsAmong_append (rows others : List (EntityId × String)) (id : EntityId) :
    labelsAmong (rows ++ others) id = labelsAmong rows id ++ labelsAmong others id := by
  simp [labelsAmong]

theorem mem_labelsAmong {rows : List (EntityId × String)} {id : EntityId} {label : String} :
    label ∈ labelsAmong rows id ↔ (id, label) ∈ rows := by
  simp [labelsAmong]

theorem labelsAmong_perm {rows others : List (EntityId × String)} (hperm : rows.Perm others)
    (id : EntityId) : (labelsAmong rows id).Perm (labelsAmong others id) :=
  (hperm.filter _).map _

namespace Catalog

variable {catalog : Catalog} {kind : LabelKind}

/-- The labels that an entity carries, with repetitions; an entity that the catalog does not
know has none. -/
def labelsOf (catalog : Catalog) (kind : LabelKind) (id : EntityId) : List String :=
  ((catalog.find? id).map fun record => record.labels kind).getD []

theorem labelsAmong_rows_of_record (record : Record) (id : EntityId) :
    labelsAmong ((record.labels kind).map fun label => (record.id, label)) id =
      if record.id = id then record.labels kind else [] := by
  by_cases hid : record.id = id <;> simp [labelsAmong, hid, Function.comp_def, List.filter_map]

theorem labelsAmong_flatMap (records : List Record) (id : EntityId) :
    labelsAmong (records.flatMap fun record =>
        (record.labels kind).map fun label => (record.id, label)) id =
      (records.filter (·.id == id)).flatMap fun record => record.labels kind := by
  induction records with
  | nil => rfl
  | cons record records ih =>
      rw [List.flatMap_cons, labelsAmong_append, ih, labelsAmong_rows_of_record]
      by_cases hid : record.id = id <;> simp [hid]

/-- At most one record has the id. -/
theorem filter_id_eq (records : Ascending Record.id) (id : EntityId) :
    records.toList.filter (·.id == id) = (records.find? id).toList := by
  let found : Ascending Record.id :=
    ⟨(records.find? id).toList, by cases records.find? id <;> simp⟩
  have hfilter : records.filter (·.id == id) = found := by
    refine Ascending.ext_of_mem fun record => ?_
    rw [Ascending.mem_filter, beq_iff_eq, ← Ascending.find?_eq_some_iff]
    exact Option.mem_toList.symm
  exact congrArg Ascending.toList hfilter

/-- The rows of an entity are the labels that it carries. -/
theorem labelsAmong_labelRows (catalog : Catalog) (kind : LabelKind) (id : EntityId) :
    labelsAmong (catalog.labelRows kind) id = catalog.labelsOf kind id := by
  rw [labelRows, labelsAmong_flatMap, filter_id_eq, labelsOf, find?]
  cases catalog.records.find? id <;> simp

theorem hasLabel_eq_any (catalog : Catalog) (kind : LabelKind) (label : String) :
    catalog.hasLabel kind label = (catalog.labelRows kind).any (·.2 == label) := by
  rw [Bool.eq_iff_iff]
  simp [hasLabel, labelRows]

theorem hasLabel_iff (catalog : Catalog) (kind : LabelKind) (label : String) :
    catalog.hasLabel kind label = true ↔ ∃ id, label ∈ catalog.labelsOf kind id := by
  rw [hasLabel_eq_any, List.any_eq_true]
  simp only [← labelsAmong_labelRows, mem_labelsAmong, beq_iff_eq, Prod.exists]
  constructor
  · rintro ⟨id, other, hrow, rfl⟩
    exact ⟨id, hrow⟩
  · rintro ⟨id, hrow⟩
    exact ⟨id, label, hrow, rfl⟩

end Catalog

/-! ## Tallies of rows -/

/-- What the rows of an entity add up to: how many there are, and whether one of them is the
label asked for. -/
structure Tally where
  total : Nat
  named : Bool

abbrev Tallies := Ascending (Prod.fst : EntityId × Tally → EntityId)

namespace Tally

/-- An entity that no row has named yet has nothing counted. -/
def of (tallies : Tallies) (id : EntityId) : Tally :=
  ((tallies.find? id).map Prod.snd).getD ⟨0, false⟩

def count (label : String) (tally : Tally) (row : String) : Tally :=
  ⟨tally.total + 1, tally.named || row == label⟩

def addRow (label : String) (tallies : Tallies) (row : EntityId × String) : Tallies :=
  tallies.insert (row.1, (of tallies row.1).count label row.2)

def ofRows (label : String) (rows : List (EntityId × String)) : Tallies :=
  rows.foldl (addRow label) .empty

/-- Whether the label is the only one or, inverted, one of several. -/
def fits (inverted : Bool) (tally : Tally) : Bool :=
  tally.named && (if inverted then 1 < tally.total else tally.total == 1)

/-- A row counts for its own entity and for no other. -/
theorem of_addRow (label : String) (tallies : Tallies) (row : EntityId × String)
    (id : EntityId) :
    of (addRow label tallies row) id =
      if row.1 = id then (of tallies id).count label row.2 else of tallies id := by
  rw [of, addRow, Ascending.find?_insert]
  split
  · next hid =>
      subst hid
      rfl
  · rfl

/-- A tally knows of its rows how many there are and whether the label is among them. -/
theorem of_ofRows (label : String) (rows : List (EntityId × String)) (id : EntityId) :
    of (ofRows label rows) id =
      ⟨(labelsAmong rows id).length, (labelsAmong rows id).contains label⟩ := by
  -- The row counted last is the one at the end.
  induction rows using List.reverseRecOn with
  | nil => rfl
  | append_singleton rows row ih =>
      have hstep : ofRows label (rows ++ [row]) = addRow label (ofRows label rows) row := by
        rw [ofRows, List.foldl_append]
        rfl
      rw [hstep, of_addRow, ih, labelsAmong_append]
      by_cases hid : row.1 = id
      · rw [if_pos hid]
        simp [labelsAmong, hid, count, beq_eq_decide, eq_comm (a := row.2)]
      · rw [if_neg hid]
        simp [labelsAmong, hid]

theorem mem_keys_filter_fits {tallies : Tallies} {inverted : Bool} {id : EntityId} :
    id ∈ (tallies.filter fun entry => entry.2.fits inverted).keys ↔
      (of tallies id).fits inverted = true := by
  rw [Ascending.mem_keys_filter, of]
  cases tallies.find? id <;> rfl

end Tally

namespace LabelCondition

/-! ## Selection from rows -/

variable {condition : LabelCondition} {kind : LabelKind} {id : EntityId}

def selectedFromRows (condition : LabelCondition) (rows : List (EntityId × String)) : IdSet :=
  match condition.test with
  | .has =>
      .ofList <| (rows.filter fun row =>
        (row.2 == condition.value) != condition.inverted).map Prod.fst
  | .hasOnly =>
      ((Tally.ofRows condition.value rows).filter fun entry =>
        entry.2.fits condition.inverted).keys

/-- What the condition selects, read off the rows in one pass. -/
def selectFromRows (condition : LabelCondition) (kind : LabelKind)
    (rows : List (EntityId × String)) : Except NameFault IdSet :=
  if rows.any (·.2 == condition.value) then .ok (condition.selectedFromRows rows)
  else .error (.unknownLabel kind condition.value)

theorem mem_selectedFromRows {rows : List (EntityId × String)} :
    id ∈ condition.selectedFromRows rows ↔
      condition.accepts (labelsAmong rows id) = true := by
  rw [selectedFromRows, accepts]
  cases condition.test with
  | has => simp [Ascending.mem_ofList, labelsAmong, and_comm]
  | hasOnly =>
      dsimp only
      rw [Tally.mem_keys_filter_fits, Tally.of_ofRows, Tally.fits]

theorem accepts_nil : condition.accepts [] = false := by
  rw [accepts]
  cases condition.test <;> rfl

theorem mem_idsWhere_labels {catalog : Catalog} :
    (id ∈ catalog.idsWhere fun record => condition.accepts (record.labels kind)) ↔
      condition.accepts (catalog.labelsOf kind id) = true := by
  rw [Catalog.mem_idsWhere, Catalog.labelsOf]
  cases catalog.find? id with
  | none => simp [accepts_nil]
  | some record => rfl

/-- Looking at each record and reading the rows in one pass come to the same. -/
theorem select_eq_selectFromRows (condition : LabelCondition) (kind : LabelKind)
    (catalog : Catalog) :
    condition.select kind catalog = condition.selectFromRows kind (catalog.labelRows kind) := by
  have hids : (catalog.idsWhere fun record => condition.accepts (record.labels kind)) =
      condition.selectedFromRows (catalog.labelRows kind) := by
    refine Ascending.ext_of_mem fun id => ?_
    rw [mem_idsWhere_labels, mem_selectedFromRows, Catalog.labelsAmong_labelRows]
  rw [select, selectFromRows, Catalog.hasLabel_eq_any, hids]

/-- The order of the rows does not matter. -/
theorem selectFromRows_of_perm (condition : LabelCondition) (kind : LabelKind)
    {rows others : List (EntityId × String)} (hperm : rows.Perm others) :
    condition.selectFromRows kind rows = condition.selectFromRows kind others := by
  have hids : condition.selectedFromRows rows = condition.selectedFromRows others := by
    refine Ascending.ext_of_mem fun id => ?_
    rw [mem_selectedFromRows, mem_selectedFromRows,
      Condition.accepts_labels_of_perm condition (labelsAmong_perm hperm id)]
  rw [selectFromRows, selectFromRows, hperm.any_eq, hids]

/-! ## What is selected -/

theorem select_eq_error_iff {catalog : Catalog} {fault : NameFault} :
    condition.select kind catalog = .error fault ↔
      fault = .unknownLabel kind condition.value ∧
        ∀ id, condition.value ∉ catalog.labelsOf kind id := by
  have hknown := catalog.hasLabel_iff kind condition.value
  rw [select, ← not_exists, ← hknown]
  split
  · next hlabel => simp [hlabel]
  · next hlabel => simp [hlabel, eq_comm]

/-- With a label that is known, the entities are selected whose labels are what it asks for. -/
theorem exists_select_eq_ok (condition : LabelCondition) {catalog : Catalog}
    {asked : List String → Prop} (hasked : ∀ labels, condition.accepts labels = true ↔ asked labels)
    (hknown : ∃ id, condition.value ∈ catalog.labelsOf kind id) :
    ∃ members, condition.select kind catalog = .ok members ∧
      ∀ id, id ∈ members ↔ asked (catalog.labelsOf kind id) := by
  rw [← Catalog.hasLabel_iff] at hknown
  exact ⟨_, if_pos hknown, fun id => mem_idsWhere_labels.trans (hasked _)⟩

section Accepts

variable {label : String} {labels : List String}

theorem accepts_has : accepts ⟨.has, label, false⟩ labels = true ↔ label ∈ labels := by
  simp [accepts]

theorem accepts_has_inverted :
    accepts ⟨.has, label, true⟩ labels = true ↔ ∃ other ∈ labels, other ≠ label := by
  simp [accepts]

theorem accepts_hasOnly : accepts ⟨.hasOnly, label, false⟩ labels = true ↔ labels = [label] := by
  simp only [accepts, Bool.and_eq_true, List.contains_iff_mem, Bool.false_eq_true, if_false,
    beq_iff_eq, List.length_eq_one_iff]
  constructor
  · rintro ⟨hmem, other, rfl⟩
    rw [List.mem_singleton.mp hmem]
  · rintro rfl
    exact ⟨List.mem_singleton_self label, label, rfl⟩

theorem accepts_hasOnly_inverted :
    accepts ⟨.hasOnly, label, true⟩ labels = true ↔ label ∈ labels ∧ 2 ≤ labels.length := by
  simp [accepts, Nat.succ_le_iff]

/-- A label that is there is the only one, or one of several. -/
theorem mem_iff_alone_or_beside :
    label ∈ labels ↔ labels = [label] ∨ label ∈ labels ∧ 2 ≤ labels.length := by
  constructor
  · intro hmem
    rcases Nat.lt_or_ge labels.length 2 with hshort | hlong
    · have hpos := List.length_pos_of_mem hmem
      obtain ⟨other, rfl⟩ := List.length_eq_one_iff.mp (show labels.length = 1 by omega)
      exact .inl (by rw [List.mem_singleton.mp hmem])
    · exact .inr ⟨hmem, hlong⟩
  · rintro (rfl | ⟨hmem, -⟩)
    · exact List.mem_singleton_self label
    · exact hmem

end Accepts

/-- A label condition fails exactly if no entity carries its label.  Otherwise `has` selects the
entities that carry it and, inverted, those that carry another one; `has_only` selects the
entities that carry it once and nothing else and, inverted, those that carry it among several.
The first set is the disjoint union of the last two, and no set depends on the order of rows. -/
theorem select_by_labels (catalog : Catalog) (kind : LabelKind) (label : String) :
    (∀ test inverted fault, select ⟨test, label, inverted⟩ kind catalog = .error fault ↔
        fault = .unknownLabel kind label ∧ ∀ id, label ∉ catalog.labelsOf kind id) ∧
      ((∃ id, label ∈ catalog.labelsOf kind id) →
        ∃ carrying differing alone beside : IdSet,
          select ⟨.has, label, false⟩ kind catalog = .ok carrying ∧
            select ⟨.has, label, true⟩ kind catalog = .ok differing ∧
            select ⟨.hasOnly, label, false⟩ kind catalog = .ok alone ∧
            select ⟨.hasOnly, label, true⟩ kind catalog = .ok beside ∧
          (∀ id, id ∈ carrying ↔ label ∈ catalog.labelsOf kind id) ∧
            (∀ id, id ∈ differing ↔ ∃ other ∈ catalog.labelsOf kind id, other ≠ label) ∧
            (∀ id, id ∈ alone ↔ catalog.labelsOf kind id = [label]) ∧
            (∀ id, id ∈ beside ↔
              label ∈ catalog.labelsOf kind id ∧ 2 ≤ (catalog.labelsOf kind id).length) ∧
          carrying = alone.union beside ∧ alone.inter beside = .empty) ∧
      ∀ other : Catalog, (other.labelRows kind).Perm (catalog.labelRows kind) →
        ∀ test inverted, select ⟨test, label, inverted⟩ kind other =
          select ⟨test, label, inverted⟩ kind catalog := by
  refine ⟨fun test inverted fault => select_eq_error_iff, fun hknown => ?_,
    fun other hperm test inverted => ?_⟩
  · obtain ⟨carrying, hcarrying, hmemCarrying⟩ :=
      exists_select_eq_ok ⟨.has, label, false⟩ (fun _ => accepts_has) hknown
    obtain ⟨differing, hdiffering, hmemDiffering⟩ :=
      exists_select_eq_ok ⟨.has, label, true⟩ (fun _ => accepts_has_inverted) hknown
    obtain ⟨alone, halone, hmemAlone⟩ :=
      exists_select_eq_ok ⟨.hasOnly, label, false⟩ (fun _ => accepts_hasOnly) hknown
    obtain ⟨beside, hbeside, hmemBeside⟩ :=
      exists_select_eq_ok ⟨.hasOnly, label, true⟩ (fun _ => accepts_hasOnly_inverted) hknown
    refine ⟨carrying, differing, alone, beside, hcarrying, hdiffering, halone, hbeside,
      hmemCarrying, hmemDiffering, hmemAlone, hmemBeside, ?_, ?_⟩
    · refine Ascending.ext_of_mem fun id => ?_
      rw [hmemCarrying, IdSet.mem_union, hmemAlone, hmemBeside]
      exact mem_iff_alone_or_beside
    · refine Ascending.ext_of_mem fun id => ?_
      rw [IdSet.mem_inter, hmemAlone, hmemBeside]
      refine iff_of_false ?_ (Ascending.not_mem_empty id)
      rintro ⟨hsingle, -, hlong⟩
      rw [hsingle, List.length_singleton] at hlong
      omega
  · rw [select_eq_selectFromRows, select_eq_selectFromRows, selectFromRows_of_perm _ _ hperm]

/-- Tags of three entities, the second with one of its tags twice. -/
def tagged : Catalog :=
  .ofSteps [.add ⟨1, .empty, ["x"], []⟩, .add ⟨2, .empty, ["y", "x", "x"], []⟩,
    .add ⟨3, .empty, ["y", "z"], []⟩]

/-- The same tags, those of the second entity in another order. -/
def retagged : Catalog :=
  .ofSteps [.add ⟨1, .empty, ["x"], []⟩, .add ⟨2, .empty, ["x", "y", "x"], []⟩,
    .add ⟨3, .empty, ["y", "z"], []⟩]

theorem select_by_labels_tagged :
    (∃ id, "x" ∈ tagged.labelsOf .tag id) ∧
      (retagged.labelRows .tag).Perm (tagged.labelRows .tag) ∧
      (∃ carrying differing alone beside : IdSet,
        select ⟨.has, "x", false⟩ .tag tagged = .ok carrying ∧
          select ⟨.has, "x", true⟩ .tag tagged = .ok differing ∧
          select ⟨.hasOnly, "x", false⟩ .tag tagged = .ok alone ∧
          select ⟨.hasOnly, "x", true⟩ .tag tagged = .ok beside ∧
          2 ∈ carrying ∧ 2 ∈ differing ∧ 2 ∉ alone ∧ 2 ∈ beside) ∧
      select ⟨.hasOnly, "x", true⟩ .tag retagged = select ⟨.hasOnly, "x", true⟩ .tag tagged := by
  have hknown : ∃ id, "x" ∈ tagged.labelsOf .tag id := ⟨1, by decide⟩
  have hperm : (retagged.labelRows .tag).Perm (tagged.labelRows .tag) := by decide
  obtain ⟨-, hselect, horder⟩ := select_by_labels tagged .tag "x"
  obtain ⟨carrying, differing, alone, beside, hcarrying, hdiffering, halone, hbeside,
    hmemCarrying, hmemDiffering, hmemAlone, hmemBeside, -⟩ := hselect hknown
  refine ⟨hknown, hperm, ⟨carrying, differing, alone, beside, hcarrying, hdiffering, halone,
    hbeside, ?_, ?_, ?_, ?_⟩, horder retagged hperm .hasOnly true⟩
  · exact (hmemCarrying 2).mpr (by decide)
  · exact (hmemDiffering 2).mpr (by decide)
  · exact fun hmem => absurd ((hmemAlone 2).mp hmem) (by decide)
  · exact (hmemBeside 2).mpr (by decide)

end LabelCondition

end FacetFilter
