import FacetFilter.Record

/-!
# Catalogs

A catalog is a schema of columns and one record for each id.  It is built by
declaring columns and adding records; a record brings its columns with it and
takes the place of an earlier one with its id.
-/

namespace FacetFilter

abbrev Columns := Ascending (id : String → String)

structure Catalog where
  columns : Columns
  records : Ascending Record.id
  deriving DecidableEq

namespace Catalog

/-- One act of building a catalog. -/
inductive Step where
  | declare (column : String)
  | add (record : Record)
  deriving DecidableEq

def empty : Catalog := ⟨.empty, .empty⟩

instance : Inhabited Catalog := ⟨empty⟩

/-- Declares a column whether or not a record has a value for it. -/
def declare (catalog : Catalog) (column : String) : Catalog :=
  { catalog with columns := catalog.columns.insert column }

def add (catalog : Catalog) (record : Record) : Catalog where
  columns := catalog.columns.insertMany record.fields.keys.toList
  records := catalog.records.insert record

def perform (catalog : Catalog) : Step → Catalog
  | .declare column => catalog.declare column
  | .add record => catalog.add record

def ofSteps (steps : List Step) : Catalog := steps.foldl perform empty

/-! ## Reading a catalog -/

def size (catalog : Catalog) : Nat := catalog.records.size

def isEmpty (catalog : Catalog) : Bool := catalog.records.isEmpty

/-- Every id of the catalog. -/
def ids (catalog : Catalog) : IdSet := catalog.records.keys

def find? (catalog : Catalog) (id : EntityId) : Option Record := catalog.records.find? id

def hasColumn (catalog : Catalog) (column : String) : Bool := catalog.columns.contains column

/-- The value of every entity in a column of the schema. -/
def scan? (catalog : Catalog) (column : String) : Option (List (EntityId × FieldValue)) :=
  if catalog.hasColumn column then
    some (catalog.records.toList.map fun record => (record.id, record.value column))
  else none

/-- Every label with the entity that carries it. -/
def labelRows (catalog : Catalog) (kind : LabelKind) : List (EntityId × String) :=
  catalog.records.toList.flatMap fun record =>
    (record.labels kind).map fun label => (record.id, label)

/-- Whether some entity carries the label. -/
def hasLabel (catalog : Catalog) (kind : LabelKind) (label : String) : Bool :=
  catalog.records.toList.any fun record => (record.labels kind).contains label

/-- The ids of the records that a test accepts. -/
def idsWhere (catalog : Catalog) (accepts : Record → Bool) : IdSet :=
  (catalog.records.filter accepts).keys

/-- The records of a selection; an id that the catalog does not know has none. -/
def recordsOf (catalog : Catalog) (selection : IdSet) : List Record :=
  selection.toList.filterMap catalog.find?

end Catalog

end FacetFilter
