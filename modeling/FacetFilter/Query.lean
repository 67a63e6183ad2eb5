import FacetFilter.Decimal.Layout
import FacetFilter.Operator
import FacetFilter.Record
import FacetFilter.Text.Blank

/-!
# Queries

A query is a list of nodes: leaves, as a user fills them in, and groups of more
nodes.  A node but the first of its list says how it joins the one before it.
Whether a leaf makes sense is not settled here.
-/

namespace FacetFilter

/-- The value that a user gives for a leaf. -/
inductive Literal where
  | bool (value : Bool)
  | number (value : Binary64)
  | text (value : String)
  deriving BEq

namespace Literal

/-- The text that a text or label condition compares. -/
def toText : Literal → String
  | .bool value => toString value
  | .number value => Decimal.Layout.plain.render value
  | .text value => value

/-- A number, also from a text that holds one between blanks. -/
def toNumber? : Literal → Option Binary64
  | .bool _ => none
  | .number value => some value
  | .text value => Decimal.read? (Text.trim value)

/-- Empty text, the text `false` in any case, the text `0` and the number zero are false. -/
def toBool : Literal → Bool
  | .bool value => value
  | .number value => value != .zero
  | .text value =>
      let trimmed := Text.trim value
      !(trimmed.isEmpty || trimmed.toList.map Char.toLower == ['f', 'a', 'l', 's', 'e'] ||
        trimmed == "0")

end Literal

/-- A leaf on a column; nothing in it has been checked. -/
structure ColumnLeaf where
  columnName : Option String
  operation : Option String
  value : Option Literal
  inverted : Bool
  showNull : Bool
  caseSensitive : Bool
  deriving BEq

structure LabelLeaf where
  operation : Option String
  value : Option Literal
  inverted : Bool
  deriving BEq

inductive Leaf where
  | text (leaf : ColumnLeaf)
  | number (leaf : ColumnLeaf)
  | flag (leaf : ColumnLeaf)
  | label (kind : LabelKind) (leaf : LabelLeaf)
  deriving BEq

inductive Node where
  | leaf (link : Option Junction) (content : Leaf)
  | group (link : Option Junction) (inverted : Bool) (members : List Node)

structure Query where
  nodes : List Node
  inverted : Bool

namespace Node

instance : Inhabited Node := ⟨group none false []⟩

/-- How the node joins the one before it. -/
def link : Node → Option Junction
  | .leaf link _ => link
  | .group link _ _ => link

def linked (node : Node) (junction : Junction) : Node :=
  match node with
  | .leaf _ content => .leaf (some junction) content
  | .group _ inverted members => .group (some junction) inverted members

mutual

def leafCount : Node → Nat
  | .leaf _ _ => 1
  | .group _ _ members => leafCounts members

def leafCounts : List Node → Nat
  | [] => 0
  | node :: nodes => leafCount node + leafCounts nodes

end

mutual

/-- Equality in which numbers compare as values. -/
def equals : Node → Node → Bool
  | .leaf link content, .leaf link' content' => link == link' && content == content'
  | .group link inverted members, .group link' inverted' members' =>
      link == link' && inverted == inverted' && allEqual members members'
  | _, _ => false

def allEqual : List Node → List Node → Bool
  | [], [] => true
  | node :: nodes, node' :: nodes' => equals node node' && allEqual nodes nodes'
  | _, _ => false

end

instance : BEq Node := ⟨equals⟩

end Node

namespace Query

instance : Inhabited Query := ⟨⟨[], false⟩⟩

instance : BEq Query :=
  ⟨fun left right => Node.allEqual left.nodes right.nodes && left.inverted == right.inverted⟩

def leafCount (query : Query) : Nat := Node.leafCounts query.nodes

end Query

end FacetFilter
