import FacetFilter.Program.Symbol
import FacetFilter.Query
import FacetFilter.Settings

/-!
# The symbols of a query

A query is written out as an expression, node by node: links become operators,
groups parentheses, and an inverted group has a negation in front.  The first
node of a list joins nothing, whatever its link says.  Leaves are checked on the
way, so the first defect in the order of the document is the one reported.
-/

namespace FacetFilter.Query

/-! ## Leaves -/

/-- The column that a leaf reads; an empty name is none. -/
def checkColumn (settings : Settings) (subject : Subject) (leaf : ColumnLeaf) :
    Except QueryFault String :=
  match leaf.columnName with
  | none | some "" => .error (.missingColumn subject)
  | some name => .ok (settings.resolve name)

def checkOperation (subject : Subject) (operation : Option String) : Except QueryFault String :=
  match operation with
  | none => .error (.missingOperation subject)
  | some operation => .ok operation

def checkValue (subject : Subject) (value : Option Literal) : Except QueryFault Literal :=
  match value with
  | none => .error (.invalidValue subject "null")
  | some literal => .ok literal

def textCondition (settings : Settings) (leaf : ColumnLeaf) : Except QueryFault Condition := do
  let column ← checkColumn settings .text leaf
  let operation ← checkOperation .text leaf.operation
  let test ← TextTest.read operation
  let literal ← checkValue .text leaf.value
  pure (.text (.make column test literal.toText leaf.caseSensitive leaf.inverted leaf.showNull))

def numberCondition (settings : Settings) (leaf : ColumnLeaf) : Except QueryFault Condition := do
  let column ← checkColumn settings .number leaf
  let operation ← checkOperation .number leaf.operation
  let comparison ← Comparison.read operation
  let literal ← checkValue .number leaf.value
  match literal.toNumber? with
  | some value => pure (.number ⟨column, comparison, value, leaf.inverted, leaf.showNull⟩)
  | none => throw (.invalidValue .number literal.toText)

/-- A flag leaf has one operation, which may be left out. -/
def checkFlagOperation (operation : Option String) : Except QueryFault Unit :=
  match operation.map Text.trim with
  | none | some "is" | some "==" => .ok ()
  | some other => .error (.unknownOperation .boolean other)

def flagCondition (settings : Settings) (leaf : ColumnLeaf) : Except QueryFault Condition := do
  let column ← checkColumn settings .boolean leaf
  checkFlagOperation leaf.operation
  pure (.flag ⟨column, leaf.value.any Literal.toBool, leaf.inverted, leaf.showNull⟩)

def labelCondition (kind : LabelKind) (leaf : LabelLeaf) : Except QueryFault Condition := do
  let operation ← checkOperation (.label kind) leaf.operation
  match LabelTest.ofText? (Text.trim operation) with
  | none => throw (.unknownOperation (.label kind) operation)
  | some test => do
      let literal ← checkValue (.label kind) leaf.value
      pure (.label kind ⟨test, literal.toText, leaf.inverted⟩)

/-- The condition that a leaf describes. -/
def leafCondition (settings : Settings) : Leaf → Except QueryFault Condition
  | .text leaf => textCondition settings leaf
  | .number leaf => numberCondition settings leaf
  | .flag leaf => flagCondition settings leaf
  | .label kind leaf => labelCondition kind leaf

/-! ## Nodes -/

/-- Puts out the operator between two nodes.  `emitted` holds the symbols so far, the latest
first. -/
def emitLink (emitted : List Symbol) (node : Node) : Except QueryFault (List Symbol) :=
  match node.link with
  | some junction => .ok (.operator (.join junction) :: emitted)
  | none => .error (.missingLink emitted.length)

def opened (inverted : Bool) (emitted : List Symbol) : List Symbol :=
  .opening :: (if inverted then .operator .not :: emitted else emitted)

mutual

def emitNode (settings : Settings) (emitted : List Symbol) :
    Node → Except QueryFault (List Symbol)
  | .leaf _ leaf => do
      let condition ← leafCondition settings leaf
      pure (.leaf condition :: emitted)
  | .group _ inverted members => do
      let emitted ← emitNodes settings (opened inverted emitted) members
      pure (.closing :: emitted)

/-- Puts out a list of nodes from its beginning. -/
def emitNodes (settings : Settings) (emitted : List Symbol) :
    List Node → Except QueryFault (List Symbol)
  | [] => .ok emitted
  | node :: nodes => do
      let emitted ← emitNode settings emitted node
      emitRest settings emitted nodes

/-- Puts out the nodes after the first. -/
def emitRest (settings : Settings) (emitted : List Symbol) :
    List Node → Except QueryFault (List Symbol)
  | [] => .ok emitted
  | node :: nodes => do
      let emitted ← emitLink emitted node
      let emitted ← emitNode settings emitted node
      emitRest settings emitted nodes

end

/-- The expression of a list of nodes. -/
def symbols (settings : Settings) (nodes : List Node) : Except QueryFault (List Symbol) :=
  List.reverse <$> emitNodes settings [] nodes

end FacetFilter.Query
