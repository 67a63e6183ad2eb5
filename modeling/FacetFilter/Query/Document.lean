import FacetFilter.Json.Defect
import FacetFilter.Json.Printer
import FacetFilter.Query

/-!
# Query documents

A query document is read as a whole before anything in it is looked at.  Members
are found by name, the last of a name counts, and what a node of its type does
not ask for is never looked at.  Within a node the link is read first, then the
type, then the members of that type in the order of their names.
-/

namespace FacetFilter.Query

open Json (Defect Found)

/-- The value of a member, the last where its name is repeated. -/
def member? (name : String) (members : List (String × Json)) : Option Json :=
  (members.reverse.find? fun entry => entry.1 == name).map Prod.snd

def mismatch {α : Type} (value : Json) (expected : String) : Except Defect α :=
  .error (.mismatch value.found expected)

/-! ## Members of a leaf -/

/-- A flag that is absent or null is false. -/
def readFlag (name : String) (members : List (String × Json)) : Except Defect Bool :=
  match member? name members with
  | none | some .null => .ok false
  | some (.bool value) => .ok value
  | some other => mismatch other "a boolean"

def readText (name : String) (members : List (String × Json)) : Except Defect (Option String) :=
  match member? name members with
  | none | some .null => .ok none
  | some (.string value) => .ok (some value)
  | some other => mismatch other "a string"

def readLiteral (name : String) (members : List (String × Json)) :
    Except Defect (Option Literal) :=
  match member? name members with
  | none | some .null => .ok none
  | some (.bool value) => .ok (some (.bool value))
  | some (.number value) => .ok (some (.number value.toBinary64))
  | some (.string value) => .ok (some (.text value))
  | some _ => .error (.noAlternative "Literal")

def readColumnLeaf (members : List (String × Json)) : Except Defect ColumnLeaf := do
  let caseSensitive ← readFlag "caseSensitive" members
  let columnName ← readText "columnName" members
  let inverted ← readFlag "inverted" members
  let operation ← readText "operation" members
  let showNull ← readFlag "showNull" members
  let value ← readLiteral "value" members
  pure { columnName, operation, value, inverted, showNull, caseSensitive }

def readLabelLeaf (members : List (String × Json)) : Except Defect LabelLeaf := do
  let inverted ← readFlag "inverted" members
  let operation ← readText "operation" members
  let value ← readLiteral "value" members
  pure { operation, value, inverted }

/-! ## Links and types -/

def linkName : Junction → String
  | .and => "and"
  | .or => "or"
  | .xor => "xor"

def readLinkName (name : String) : Except Defect Junction :=
  match name with
  | "and" => .ok .and
  | "or" => .ok .or
  | "xor" => .ok .xor
  | other => .error (.unknownVariant other ["and", "or", "xor"])

/-- A link is a name, or a map from that name alone to null; inside a group the map may also
lead to an empty map. -/
def readLink (grouped : Bool) (members : List (String × Json)) :
    Except Defect (Option Junction) :=
  match member? "operator" members with
  | none | some .null => .ok none
  | some (.string name) => some <$> readLinkName name
  | some (.object entries) =>
      match (Ascending.ofList entries : Ascending (Prod.fst : String × Json → String)).toList with
      | [(name, value)] => do
          let junction ← readLinkName name
          match value, grouped with
          | .null, _ => pure (some junction)
          | .object [], true => pure (some junction)
          | other, _ => mismatch other "unit"
      | _ => .error (.outOfRange .map "map with a single key")
  | some other => mismatch other "string or map"

inductive NodeType where
  | text
  | number
  | flag
  | label (kind : LabelKind)
  | group
  deriving DecidableEq

namespace NodeType

/-- The types in the order in which they are numbered. -/
def all : List NodeType := [.text, .number, .flag, .label .tag, .label .color, .group]

def name : NodeType → String
  | .text => "text"
  | .number => "number"
  | .flag => "boolean"
  | .label kind => kind.name
  | .group => "group"

/-- A type is told by its name or by its number. -/
def read (members : List (String × Json)) : Except Defect NodeType :=
  match member? "type" members with
  | none => .error (.missingField "type")
  | some (.string given) =>
      match all.find? fun type => type.name == given with
      | some type => .ok type
      | none => .error (.unknownVariant given (all.map name))
  | some (.number (.whole (.ofNat index))) =>
      match all[index]? with
      | some type => .ok type
      | none =>
          .error (.outOfRange (.number (.whole index)) "variant index 0 <= i < 6")
  | some other => mismatch other "variant identifier"

end NodeType

/-! ## Nodes and queries -/

/-- Reads a list of nodes; an absent one is empty. -/
def readNodes (readNode : Json → Except Defect Node) : Option Json → Except Defect (List Node)
  | none => .ok []
  | some (.array items) => items.mapM readNode
  | some other => mismatch other "a sequence"

/-- Reads a node that holds groups at most `depth` deep, itself included; `grouped` tells whether
it stands inside a group. -/
def readNode (grouped : Bool) : Nat → Json → Except Defect Node
  | 0, _ => .error .notJson
  | depth + 1, .object members => do
      let link ← readLink grouped members
      let type ← NodeType.read members
      match type with
      | .text => (.leaf link <| .text ·) <$> readColumnLeaf members
      | .number => (.leaf link <| .number ·) <$> readColumnLeaf members
      | .flag => (.leaf link <| .flag ·) <$> readColumnLeaf members
      | .label kind => (.leaf link <| .label kind ·) <$> readLabelLeaf members
      | .group => do
          let nodes ← readNodes (readNode true depth) (member? "filters" members)
          let inverted ← readFlag "inverted" members
          pure (.group link inverted nodes)
  | _ + 1, other => mismatch other "struct FilterNode"

/-- A bare array is a query that is not inverted. -/
def ofJson (document : Json) : Except Defect Query :=
  match document with
  | .array _ => do
      let nodes ← readNodes (readNode false Json.maxDepth) (some document)
      pure ⟨nodes, false⟩
  | .object members => do
      let nodes ← readNodes (readNode false Json.maxDepth) (member? "filters" members)
      let inverted ← readFlag "inverted" members
      pure ⟨nodes, inverted⟩
  | other => mismatch other "struct FilterQuery"

def ofText (text : String) : Except Defect Query :=
  match Json.parse? text with
  | some document => ofJson document
  | none => .error .notJson

/-! ## Writing -/

def literalJson : Option Literal → Json
  | none => .null
  | some (.bool value) => .bool value
  | some (.number value) => .number (.double value)
  | some (.text value) => .string value

def textJson : Option String → Json
  | none => .null
  | some value => .string value

def columnLeafMembers (leaf : ColumnLeaf) : List (String × Json) :=
  [("columnName", textJson leaf.columnName), ("operation", textJson leaf.operation),
    ("value", literalJson leaf.value), ("inverted", .bool leaf.inverted),
    ("showNull", .bool leaf.showNull), ("caseSensitive", .bool leaf.caseSensitive)]

def labelLeafMembers (leaf : LabelLeaf) : List (String × Json) :=
  [("operation", textJson leaf.operation), ("value", literalJson leaf.value),
    ("inverted", .bool leaf.inverted)]

def leafMembers : Leaf → List (String × Json)
  | .text leaf => ("type", .string NodeType.text.name) :: columnLeafMembers leaf
  | .number leaf => ("type", .string NodeType.number.name) :: columnLeafMembers leaf
  | .flag leaf => ("type", .string NodeType.flag.name) :: columnLeafMembers leaf
  | .label kind leaf => ("type", .string (NodeType.label kind).name) :: labelLeafMembers leaf

/-- A link that is absent is left out. -/
def linkMembers : Option Junction → List (String × Json)
  | none => []
  | some junction => [("operator", .string (linkName junction))]

mutual

def nodeJson : Node → Json
  | .leaf link leaf => .object (linkMembers link ++ leafMembers leaf)
  | .group link inverted members =>
      .object (linkMembers link ++
        [("type", .string NodeType.group.name), ("inverted", .bool inverted),
          ("filters", .array (nodesJson members))])

def nodesJson : List Node → List Json
  | [] => []
  | node :: nodes => nodeJson node :: nodesJson nodes

end

def toJson (query : Query) : Json :=
  .object [("filters", .array (nodesJson query.nodes)), ("inverted", .bool query.inverted)]

def render (query : Query) : String := query.toJson.render

end FacetFilter.Query
