import FacetFilter.Catalog.Document
import FacetFilter.Proofs.Catalog.Steps
import FacetFilter.Proofs.Json.Printer

/-!
# Catalog documents written and read

A catalog is read back from what is written for a document: each part is read where
it was written, as it was.  Fields are kept in order of their names, so they are the
same collection again; everything else is a list, and its order and repetitions stay.
-/

namespace FacetFilter

/-- A document has no text for a number that is not finite. -/
def FieldValue.isFinite : FieldValue → Bool
  | .number value => value.isFinite
  | _ => true

def Record.IsFinite (record : Record) : Prop :=
  ∀ field ∈ record.fields.toList, field.2.isFinite = true

instance (record : Record) : Decidable record.IsFinite :=
  inferInstanceAs (Decidable (∀ field ∈ record.fields.toList, field.2.isFinite = true))

namespace CatalogDocument

open Json (Written Defect)

/-! ## Sequences -/

theorem mapM_eq_ok {α β ε : Type} {write : α → β} {read : β → Except ε α} {values : List α}
    (hread : ∀ value ∈ values, read (write value) = .ok value) :
    (values.map write).mapM read = .ok values := by
  induction values with
  | nil => rfl
  | cons value values ih =>
      obtain ⟨hvalue, hvalues⟩ := List.forall_mem_cons.mp hread
      rw [List.map_cons, List.mapM_cons, hvalue, ih hvalues]
      rfl

theorem readSequence_written {α : Type} {write : α → Json} {read : Written → Except Defect α}
    {values : List α} (hread : ∀ value ∈ values, read (write value).written = .ok value) :
    readSequence read (Json.array (values.map write)).written = .ok values := by
  have hvalues : (values.map fun value => (write value).written).mapM read = .ok values :=
    mapM_eq_ok hread
  rw [Json.written, Json.itemsWritten_eq_map, List.map_map, readSequence]
  change (values.map fun value => (write value).written).mapM read >>= _ = _
  rw [hvalues]
  rfl

theorem readStrings_written (texts : List String) :
    readStrings (Json.array (texts.map .string)).written = .ok texts :=
  readSequence_written fun _ _ => rfl

theorem isWritable_strings (texts : List String) :
    (Json.array (texts.map .string)).IsWritable := by
  rw [Json.IsWritable, Json.itemsWritable_iff, List.forall_mem_map]
  exact fun _ _ => trivial

/-! ## Records -/

theorem isWritable_id (id : EntityId) : (Json.Number.ofNat id.toNat).IsWritable := by
  have hlt : id.toNat < UInt64.size := Nat.lt_trans id.toNat_lt (by decide)
  have hsign : ¬((id.toNat : Int) < 0) := by omega
  change Json.Number.fitsWhole (decide ((id.toNat : Int) < 0)) (Int.natAbs id.toNat) = true
  rw [decide_eq_false hsign, Int.natAbs_natCast, Json.Number.fitsWhole]
  exact decide_eq_true hlt

theorem readId_written (id : EntityId) :
    readId (Json.number (.ofNat id.toNat)).written = .ok id := by
  have hid : (0 : Int) ≤ id.toNat ∧ (id.toNat : Int) < UInt32.size :=
    ⟨Int.natCast_nonneg _, Int.ofNat_lt.mpr id.toNat_lt⟩
  rw [Json.written, readId, Json.Number.ofLiteral?_literal (isWritable_id id)]
  change (if _ then Except.ok (UInt32.ofNat (Int.toNat id.toNat)) else _) = _
  rw [if_pos hid, Int.toNat_natCast, UInt32.ofNat_toNat]

theorem isWritable_fieldValueJson {value : FieldValue} (hfinite : value.isFinite = true) :
    (fieldValueJson value).IsWritable := by
  cases value with
  | number number => exact hfinite
  | null | bool | text => trivial

theorem readFieldValue_written {value : FieldValue} (hfinite : value.isFinite = true) :
    readFieldValue (fieldValueJson value).written = .ok value := by
  have hdepth : (fieldValueJson value).depth ≤ fieldDepth := by
    cases value <;> exact Nat.zero_le _
  have hjson := Json.toJson?_written _ fieldDepth (isWritable_fieldValueJson hfinite) hdepth
  rw [readFieldValue, hjson]
  cases value <;> rfl

theorem readFields_written {fields : Fields}
    (hfinite : ∀ field ∈ fields.toList, field.2.isFinite = true) :
    readFields (Json.object (fields.toList.map fun (name, value) =>
      (name, fieldValueJson value))).written = .ok fields := by
  have hfields : (fields.toList.map fun field =>
      (some field.1, (fieldValueJson field.2).written)).mapM readField = .ok fields.toList := by
    apply mapM_eq_ok
    intro field hmem
    rw [readField, readFieldValue_written (hfinite field hmem)]
    rfl
  rw [Json.written, Json.membersWritten_eq_map, List.map_map, readFields]
  change (fields.toList.map fun field =>
    (some field.1, (fieldValueJson field.2).written)).mapM readField >>= _ = _
  rw [hfields]
  exact congrArg Except.ok fields.ofList_toList

/-- A record is read from an object of its parts in order. -/
theorem readRecord_object {id fields tags colors : Written} {record : Record}
    (hid : readId id = .ok record.id) (hfields : readFields fields = .ok record.fields)
    (htags : readStrings tags = .ok record.tags)
    (hcolors : readStrings colors = .ok record.colors) :
    readRecord (.object [(some "id", id), (some "fields", fields), (some "tags", tags),
      (some "colors", colors)] true) = .ok record := by
  simp only [readRecord, List.foldlM_cons, List.foldlM_nil, RecordParts.readMember,
    RecordParts.none, readOnce, hid, hfields, htags, hcolors]
  rfl

theorem readRecord_written {record : Record} (hfinite : record.IsFinite) :
    readRecord (recordJson record).written = .ok record :=
  readRecord_object (readId_written record.id) (readFields_written hfinite)
    (readStrings_written record.tags) (readStrings_written record.colors)

/-! ## Documents -/

theorem read_object {columns records : Written} {document : CatalogDocument}
    (hcolumns : readStrings columns = .ok document.columns)
    (hrecords : readSequence readRecord records = .ok document.records) :
    read (.object [(some "columns", columns), (some "entities", records)] true) = .ok document := by
  simp only [read, List.foldlM_cons, List.foldlM_nil, Parts.readMember, Parts.none, readOnce,
    hcolumns, hrecords]
  rfl

theorem read_written {document : CatalogDocument}
    (hfinite : ∀ record ∈ document.records, record.IsFinite) :
    read document.toJson.written = .ok document :=
  read_object (readStrings_written document.columns)
    (readSequence_written fun record hmem => readRecord_written (hfinite record hmem))

theorem isWritable_recordJson {record : Record} (hfinite : record.IsFinite) :
    (recordJson record).IsWritable := by
  have hfields : Json.MembersWritable (record.fields.toList.map fun (name, value) =>
      (name, fieldValueJson value)) := by
    rw [Json.membersWritable_iff, List.forall_mem_map]
    intro field hmem
    exact isWritable_fieldValueJson (hfinite field hmem)
  exact ⟨isWritable_id record.id, hfields, isWritable_strings record.tags,
    isWritable_strings record.colors, trivial⟩

theorem isWritable_toJson {document : CatalogDocument}
    (hfinite : ∀ record ∈ document.records, record.IsFinite) : document.toJson.IsWritable := by
  have hrecords : Json.ItemsWritable (document.records.map recordJson) := by
    rw [Json.itemsWritable_iff, List.forall_mem_map]
    exact fun record hmem => isWritable_recordJson (hfinite record hmem)
  exact ⟨isWritable_strings document.columns, hrecords, trivial⟩

theorem ofText_eq_ok {document : CatalogDocument}
    (hfinite : ∀ record ∈ document.records, record.IsFinite) :
    ofText document.toJson.render = .ok document := by
  rw [ofText, Json.ofText_render_eq_written (isWritable_toJson hfinite)]
  change (read document.toJson.written >>= _) = _
  rw [read_written hfinite]
  rfl

/-- The schema of a document holds its columns and the names of the fields. -/
theorem hasColumn_toCatalog {document : CatalogDocument} {column : String} :
    document.toCatalog.hasColumn column = true ↔
      column ∈ document.columns ∨
        ∃ record ∈ document.records, ∃ value, (column, value) ∈ record.fields := by
  rw [toCatalog, Catalog.hasColumn_ofSteps]
  simp

/-- Of the records of a document that share an id, the last one stays. -/
theorem find?_toCatalog (document : CatalogDocument) (id : EntityId) :
    document.toCatalog.find? id = document.records.reverse.find? (·.id == id) := by
  rw [toCatalog, Catalog.find?_ofSteps, List.filterMap_append]
  simp [List.filterMap_map, Function.comp_def, Catalog.Step.record?]

end CatalogDocument

namespace Catalog

/-- What is written for a document is read as the catalog of the document: its schema holds the
columns of the document and the names of all fields, and under an id stands the last record of
the document with this id, as it was. -/
theorem ofText_eq_toCatalog (document : CatalogDocument)
    (hfinite : ∀ record ∈ document.records, record.IsFinite) :
    ofText document.toJson.render = .ok document.toCatalog ∧
      (∀ column, document.toCatalog.hasColumn column = true ↔
        column ∈ document.columns ∨
          ∃ record ∈ document.records, ∃ value, (column, value) ∈ record.fields) ∧
        ∀ id, document.toCatalog.find? id =
          document.records.reverse.find? fun record => record.id == id := by
  refine ⟨?_, fun _ => CatalogDocument.hasColumn_toCatalog, document.find?_toCatalog⟩
  rw [ofText, CatalogDocument.ofText_eq_ok hfinite]
  rfl

/-- An entity with two records, the last of which has an explicit null, a negative zero, the least
number above zero, a name that has to be escaped and a tag that stands twice. -/
def repeatedEntity : CatalogDocument where
  columns := ["žluť", "a \"b\"", "žluť"]
  records := [⟨7, Ascending.ofList [("gone", .bool true)], ["old"], []⟩,
    ⟨4294967295, .empty, [], ["red"]⟩,
    ⟨7, Ascending.ofList [("\n\x01", .text "𝒳"), ("price", .null),
      ("rank", .number (.finite true 0 representable_zero)),
      ("score", .number (.finite false 1 representable_one))], ["new", "a", "new"], []⟩]

theorem ofText_eq_toCatalog_repeatedEntity :
    (∀ record ∈ repeatedEntity.records, record.IsFinite) ∧
      ∃ catalog, ofText repeatedEntity.toJson.render = .ok catalog ∧
        catalog.hasColumn "gone" = true ∧
          (catalog.find? 7).map Record.tags = some ["new", "a", "new"] := by
  have hfinite : ∀ record ∈ repeatedEntity.records, record.IsFinite := by decide
  obtain ⟨hread, hcolumns, hfind⟩ := ofText_eq_toCatalog repeatedEntity hfinite
  refine ⟨hfinite, _, hread, ?_, ?_⟩
  · exact (hcolumns "gone").mpr (.inr ⟨_, List.mem_cons_self, _, List.mem_cons_self⟩)
  · rw [hfind]
    rfl

end Catalog

end FacetFilter
