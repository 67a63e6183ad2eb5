import FacetFilter.Catalog
import FacetFilter.Json.Defect

/-!
# Catalog documents

A catalog document lists columns and records.  It is read in one pass in the
order of its text, so the first defect met is the one reported, whatever the rest
holds; names that mean nothing here are skipped.  Document and record may also be
written as arrays of their parts in order.
-/

namespace FacetFilter

structure CatalogDocument where
  columns : List String
  records : List Record
  deriving DecidableEq

namespace CatalogDocument

open Json (Written Defect)

def toCatalog (document : CatalogDocument) : Catalog :=
  Catalog.ofSteps (document.columns.map .declare ++ document.records.map .add)

/-! ## Parts -/

/-- What a sequence or a map holds is its value only where its end is written. -/
def requireEnd (ended : Bool) : Except Defect Unit :=
  if ended then .ok () else .error .notJson

def readString : Written → Except Defect String
  | .string (some text) => .ok text
  | other => .error (other.mismatch "a string")

def readSequence {α : Type} (readItem : Written → Except Defect α) :
    Written → Except Defect (List α)
  | .array items ended => do
      let values ← items.mapM readItem
      requireEnd ended
      pure values
  | other => .error (other.mismatch "a sequence")

def readStrings : Written → Except Defect (List String) := readSequence readString

def readId (value : Written) : Except Defect EntityId :=
  match value with
  | .number literal =>
      match Json.Number.ofLiteral? literal with
      | none => .error .notJson
      | some (.double number) => .error (.mismatch (.number (.double number)) "u32")
      | some (.whole number) =>
          if 0 ≤ number ∧ number < UInt32.size then .ok (.ofNat number.toNat)
          else .error (.outOfRange (.number (.whole number)) "u32")
  | other => .error (other.mismatch "u32")

/-- The nesting that is left for a field value inside its document, entities, record and fields. -/
def fieldDepth : Nat := Json.maxDepth - 4

def fieldValueOf? : Json → Option FieldValue
  | .null => some .null
  | .bool value => some (.bool value)
  | .number value => some (.number value.toBinary64)
  | .string value => some (.text value)
  | _ => none

/-- A field value is read whole before it is told what it is. -/
def readFieldValue (value : Written) : Except Defect FieldValue :=
  match value.toJson? fieldDepth with
  | none => .error .notJson
  | some json =>
      match fieldValueOf? json with
      | some fieldValue => .ok fieldValue
      | none => .error (.noAlternative "Value")

def readField : Option String × Written → Except Defect (String × FieldValue)
  | (none, _) => .error .notJson
  | (some name, value) => do
      let fieldValue ← readFieldValue value
      pure (name, fieldValue)

/-- Of the fields that share a name, the last one stays. -/
def readFields : Written → Except Defect Fields
  | .object members ended => do
      let fields ← members.mapM readField
      requireEnd ended
      pure (.ofList fields)
  | other => .error (other.mismatch "a map")

/-- A member whose name is not asked for has to be complete and nothing else. -/
def skip (value : Written) : Except Defect Unit := requireEnd value.isComplete

/-- Reads a part that may be given once. -/
def readOnce {α : Type} (name : String) (earlier : Option α) (read : Written → Except Defect α)
    (value : Written) : Except Defect (Option α) :=
  if earlier.isSome then .error (.duplicateField name) else some <$> read value

/-- The next item of a sequence that is written as far as `ended` tells. -/
def nextItem (ended : Bool) : List Written → Except Defect (Option Written × List Written)
  | [] => do
      requireEnd ended
      pure (none, [])
  | item :: items => .ok (some item, items)

/-- Reads the next item, or takes the value that stands for it where the sequence is over. -/
def readNext {α : Type} (ended : Bool) (items : List Written) (read : Written → Except Defect α)
    (absent : Except Defect α) : Except Defect (α × List Written) := do
  let (item, items) ← nextItem ended items
  let value ← match item with
    | some item => read item
    | none => absent
  pure (value, items)

/-! ## Records -/

structure RecordParts where
  id : Option EntityId
  fields : Option Fields
  tags : Option (List String)
  colors : Option (List String)

namespace RecordParts

def none : RecordParts := ⟨.none, .none, .none, .none⟩

def readMember (parts : RecordParts) :
    Option String × Written → Except Defect RecordParts
  | (.none, _) => .error .notJson
  | (some "id", value) => do
      let id ← readOnce "id" parts.id readId value
      pure { parts with id }
  | (some "fields", value) => do
      let fields ← readOnce "fields" parts.fields readFields value
      pure { parts with fields }
  | (some "tags", value) => do
      let tags ← readOnce "tags" parts.tags readStrings value
      pure { parts with tags }
  | (some "colors", value) => do
      let colors ← readOnce "colors" parts.colors readStrings value
      pure { parts with colors }
  | (some _, value) => do
      skip value
      pure parts

/-- Every part but the id may be left out. -/
def toRecord (parts : RecordParts) : Except Defect Record :=
  match parts.id with
  | .none => .error (.missingField "id")
  | some id =>
      .ok ⟨id, parts.fields.getD .empty, parts.tags.getD [], parts.colors.getD []⟩

end RecordParts

def recordLength : String := "struct EntityRecord with 4 elements"

def readRecord : Written → Except Defect Record
  | .object members ended => do
      let parts ← members.foldlM RecordParts.readMember .none
      requireEnd ended
      parts.toRecord
  | .array items ended => do
      let (id, items) ← readNext ended items readId (.error (.wrongLength 0 recordLength))
      let (fields, items) ← readNext ended items readFields (.ok .empty)
      let (tags, items) ← readNext ended items readStrings (.ok [])
      let (colors, items) ← readNext ended items readStrings (.ok [])
      requireEnd (ended && items.isEmpty)
      pure ⟨id, fields, tags, colors⟩
  | other => .error (other.mismatch "struct EntityRecord")

/-! ## Documents -/

structure Parts where
  columns : Option (List String)
  records : Option (List Record)

namespace Parts

def none : Parts := ⟨.none, .none⟩

def readMember (parts : Parts) : Option String × Written → Except Defect Parts
  | (.none, _) => .error .notJson
  | (some "columns", value) => do
      let columns ← readOnce "columns" parts.columns readStrings value
      pure { parts with columns }
  | (some "entities", value) => do
      let records ← readOnce "entities" parts.records (readSequence readRecord) value
      pure { parts with records }
  | (some _, value) => do
      skip value
      pure parts

def toDocument (parts : Parts) : Except Defect CatalogDocument :=
  match parts.records with
  | .none => .error (.missingField "entities")
  | some records => .ok ⟨parts.columns.getD [], records⟩

end Parts

def documentLength : String := "struct DatasetDocument with 2 elements"

def read : Written → Except Defect CatalogDocument
  | .object members ended => do
      let parts ← members.foldlM Parts.readMember .none
      requireEnd ended
      parts.toDocument
  | .array items ended => do
      let (columns, items) ← readNext ended items readStrings (.ok [])
      let (records, items) ←
        readNext ended items (readSequence readRecord) (.error (.wrongLength 1 documentLength))
      requireEnd (ended && items.isEmpty)
      pure ⟨columns, records⟩
  | other => .error (other.mismatch "struct DatasetDocument")

/-- The document that a text holds; what follows it is looked at last. -/
def ofText (text : String) : Except Defect CatalogDocument := do
  let (value, alone) := Written.ofText text
  let document ← read value
  requireEnd alone
  pure document

/-! ## Writing -/

def fieldValueJson : FieldValue → Json
  | .null => .null
  | .bool value => .bool value
  | .number value => .number (.double value)
  | .text value => .string value

def recordJson (record : Record) : Json :=
  .object
    [("id", .number (.ofNat record.id.toNat)),
      ("fields", .object (record.fields.toList.map fun (name, value) =>
        (name, fieldValueJson value))),
      ("tags", .array (record.tags.map .string)),
      ("colors", .array (record.colors.map .string))]

def toJson (document : CatalogDocument) : Json :=
  .object
    [("columns", .array (document.columns.map .string)),
      ("entities", .array (document.records.map recordJson))]

end CatalogDocument

namespace Catalog

def ofText (text : String) : Except Json.Defect Catalog :=
  CatalogDocument.toCatalog <$> CatalogDocument.ofText text

end Catalog

end FacetFilter
