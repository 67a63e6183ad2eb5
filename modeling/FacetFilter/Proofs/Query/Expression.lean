import FacetFilter.Query.Symbols
import FacetFilter.Proofs.Program.Grammar

/-!
# The expression of a query

Where no node has a defect, the symbols of a list of nodes are the texts of its
nodes with the links between them.  `Written` relates a node to its text without
the accumulator of the emitting functions, so what holds of every expression of
a query is shown by going through the tree.
-/

namespace FacetFilter

def Leaf.value? : Leaf → Option Literal
  | .text leaf => leaf.value
  | .number leaf => leaf.value
  | .flag leaf => leaf.value
  | .label _ leaf => leaf.value

namespace Query

/-- The symbol of the junction that links a node. -/
def linkSymbols (link : Option Junction) : List Symbol :=
  link.toList.map fun junction => .operator (.join junction)

/-- The texts of siblings with the links between them; the first link stands for nothing. -/
def joined : List (Option Junction × List Symbol) → List Symbol
  | [] => []
  | first :: rest => first.2 ++ rest.flatMap fun part => linkSymbols part.1 ++ part.2

def negationIf (inverted : Bool) : List Symbol := if inverted then [.operator .not] else []

mutual

/-- The text of a node, its own link left out. -/
inductive Written (settings : Settings) : Node → List Symbol → Prop where
  | leaf {link : Option Junction} {leaf : Leaf} {condition : Condition}
      (hcondition : leafCondition settings leaf = .ok condition) :
      Written settings (.leaf link leaf) [.leaf condition]
  | group {link : Option Junction} {inverted : Bool} {members : List Node}
      {parts : List (Option Junction × List Symbol)}
      (hmembers : WrittenAll settings members parts)
      (hlinks : ∀ part ∈ parts.tail, part.1.isSome = true) :
      Written settings (.group link inverted members)
        (negationIf inverted ++ .opening :: (joined parts ++ [.closing]))

/-- The links and texts of a list of nodes. -/
inductive WrittenAll (settings : Settings) :
    List Node → List (Option Junction × List Symbol) → Prop where
  | nil : WrittenAll settings [] []
  | cons {node : Node} {nodes : List Node} {text : List Symbol}
      {parts : List (Option Junction × List Symbol)} (hnode : Written settings node text)
      (hnodes : WrittenAll settings nodes parts) :
      WrittenAll settings (node :: nodes) ((node.link, text) :: parts)

end

/-! ## What emitting puts out -/

theorem emitLink_eq_ok {emitted out : List Symbol} {node : Node}
    (hemit : emitLink emitted node = .ok out) :
    node.link.isSome = true ∧ out = (linkSymbols node.link).reverse ++ emitted := by
  rw [emitLink] at hemit
  cases hlink : node.link with
  | none =>
      rw [hlink] at hemit
      cases hemit
  | some junction =>
      rw [hlink] at hemit
      cases hemit
      exact ⟨rfl, rfl⟩

theorem bind_eq_ok {ε α β : Type} {first : Except ε α} {next : α → Except ε β} {result : β}
    (hbind : first >>= next = .ok result) :
    ∃ value, first = .ok value ∧ next value = .ok result := by
  cases first with
  | error fault => cases hbind
  | ok value => exact ⟨value, rfl, hbind⟩

theorem opened_eq (inverted : Bool) (emitted : List Symbol) :
    opened inverted emitted = .opening :: ((negationIf inverted).reverse ++ emitted) := by
  cases inverted <;> rfl

mutual

theorem written_of_emitNode {settings : Settings} {emitted out : List Symbol} :
    ∀ {node : Node}, emitNode settings emitted node = .ok out →
      ∃ text, out = text.reverse ++ emitted ∧ Written settings node text
  | .leaf link leaf, hemit => by
      rw [emitNode] at hemit
      obtain ⟨condition, hcondition, hout⟩ := bind_eq_ok hemit
      cases hout
      exact ⟨[.leaf condition], rfl, .leaf hcondition⟩
  | .group link inverted members, hemit => by
      rw [emitNode] at hemit
      obtain ⟨written, hmembers, hout⟩ := bind_eq_ok hemit
      cases hout
      obtain ⟨parts, rfl, hwritten, hlinks⟩ := writtenAll_of_emitNodes hmembers
      exact ⟨_, by simp [opened_eq], .group hwritten hlinks⟩

theorem writtenAll_of_emitNodes {settings : Settings} {emitted out : List Symbol} :
    ∀ {nodes : List Node}, emitNodes settings emitted nodes = .ok out →
      ∃ parts, out = (joined parts).reverse ++ emitted ∧ WrittenAll settings nodes parts ∧
        ∀ part ∈ parts.tail, part.1.isSome = true
  | [], hemit => by
      rw [emitNodes] at hemit
      cases hemit
      exact ⟨[], rfl, .nil, by simp⟩
  | node :: nodes, hemit => by
      rw [emitNodes] at hemit
      obtain ⟨first, hfirst, hrest⟩ := bind_eq_ok hemit
      obtain ⟨text, rfl, hnode⟩ := written_of_emitNode hfirst
      obtain ⟨parts, rfl, hnodes, hlinks⟩ := writtenAll_of_emitRest hrest
      exact ⟨_, by simp [joined], .cons hnode hnodes, hlinks⟩

theorem writtenAll_of_emitRest {settings : Settings} {emitted out : List Symbol} :
    ∀ {nodes : List Node}, emitRest settings emitted nodes = .ok out →
      ∃ parts : List (Option Junction × List Symbol),
        out = (parts.flatMap fun part => linkSymbols part.1 ++ part.2).reverse ++ emitted ∧
          WrittenAll settings nodes parts ∧ ∀ part ∈ parts, part.1.isSome = true
  | [], hemit => by
      rw [emitRest] at hemit
      cases hemit
      exact ⟨[], rfl, .nil, by simp⟩
  | node :: nodes, hemit => by
      rw [emitRest] at hemit
      obtain ⟨linked, hlinked, hemit⟩ := bind_eq_ok hemit
      obtain ⟨hlink, rfl⟩ := emitLink_eq_ok hlinked
      obtain ⟨first, hfirst, hrest⟩ := bind_eq_ok hemit
      obtain ⟨text, rfl, hnode⟩ := written_of_emitNode hfirst
      obtain ⟨parts, rfl, hnodes, hlinks⟩ := writtenAll_of_emitRest hrest
      exact ⟨_, by simp, .cons hnode hnodes, List.forall_mem_cons.mpr ⟨hlink, hlinks⟩⟩

end

/-- The symbols of a query are the texts of its nodes and the links between them. -/
theorem writtenAll_of_symbols {settings : Settings} {nodes : List Node} {emitted : List Symbol}
    (hsymbols : symbols settings nodes = .ok emitted) :
    ∃ parts, emitted = joined parts ∧ WrittenAll settings nodes parts ∧
      ∀ part ∈ parts.tail, part.1.isSome = true := by
  rw [symbols] at hsymbols
  cases hemit : emitNodes settings [] nodes with
  | error fault =>
      rw [hemit] at hsymbols
      cases hsymbols
  | ok out =>
      rw [hemit] at hsymbols
      cases hsymbols
      obtain ⟨parts, rfl, hwritten, hlinks⟩ := writtenAll_of_emitNodes hemit
      exact ⟨parts, by simp, hwritten, hlinks⟩

/-! ## Trees without empty groups -/

mutual

/-- Every group of the node has a member. -/
def filled : Node → Bool
  | .leaf _ _ => true
  | .group _ _ members => !members.isEmpty && allFilled members

def allFilled : List Node → Bool
  | [] => true
  | node :: nodes => filled node && allFilled nodes

end

/-- Texts are runs of the text of their siblings. -/
theorem infix_joined {parts : List (Option Junction × List Symbol)}
    {part : Option Junction × List Symbol} (hpart : part ∈ parts) : part.2 <:+: joined parts := by
  cases parts with
  | nil => exact absurd hpart List.not_mem_nil
  | cons first rest =>
      rw [joined]
      rcases List.mem_cons.mp hpart with rfl | hpart
      · exact (List.prefix_append _ _).isInfix
      · have hlinked : linkSymbols part.1 ++ part.2 <:+:
            rest.flatMap fun part => linkSymbols part.1 ++ part.2 := by
          rw [List.flatMap_def]
          exact List.infix_of_mem_flatten (List.mem_map_of_mem hpart)
        exact ((List.suffix_append _ _).isInfix.trans hlinked).trans
          (List.suffix_append _ _).isInfix

mutual

/-- A text without an empty pair of parentheses comes from a node without an empty group. -/
theorem Written.filled {settings : Settings} {node : Node} {text : List Symbol}
    (hwritten : Written settings node text) (hpair : ¬[.opening, .closing] <:+: text) :
    filled node = true := by
  cases hwritten with
  | leaf hcondition => rfl
  | @group link inverted members parts hmembers hlinks =>
      have hinner : joined parts <:+:
          negationIf inverted ++ .opening :: (joined parts ++ [.closing]) :=
        ⟨negationIf inverted ++ [.opening], [.closing], by simp⟩
      rw [Query.filled, Bool.and_eq_true, Bool.not_eq_true', List.isEmpty_eq_false_iff]
      refine ⟨?_, hmembers.filled fun part hpart hwithin =>
        hpair ((hwithin.trans (infix_joined hpart)).trans hinner)⟩
      rintro rfl
      cases hmembers
      exact hpair (List.suffix_append _ _).isInfix

theorem WrittenAll.filled {settings : Settings} {nodes : List Node}
    {parts : List (Option Junction × List Symbol)} (hwritten : WrittenAll settings nodes parts)
    (hpair : ∀ part ∈ parts, ¬[.opening, .closing] <:+: part.2) : allFilled nodes = true := by
  cases hwritten with
  | nil => rfl
  | cons hnode hnodes =>
      obtain ⟨hfirst, hrest⟩ := List.forall_mem_cons.mp hpair
      rw [allFilled, hnode.filled hfirst, hnodes.filled hrest]
      rfl

end

/-! ## The leaves of a query -/

mutual

/-- The leaves of a node in the order of the document. -/
def leavesOf : Node → List Leaf
  | .leaf _ leaf => [leaf]
  | .group _ _ members => allLeavesOf members

def allLeavesOf : List Node → List Leaf
  | [] => []
  | node :: nodes => leavesOf node ++ allLeavesOf nodes

end

mutual

theorem leafCount_eq_length (node : Node) : node.leafCount = (leavesOf node).length := by
  cases node with
  | leaf link content => rfl
  | group link inverted members =>
      rw [Node.leafCount, leavesOf]
      exact leafCounts_eq_length members

theorem leafCounts_eq_length (nodes : List Node) :
    Node.leafCounts nodes = (allLeavesOf nodes).length := by
  cases nodes with
  | nil => rfl
  | cons node nodes =>
      rw [Node.leafCounts, allLeavesOf, List.length_append, leafCount_eq_length node,
        leafCounts_eq_length nodes]

end

theorem conditions_joined (parts : List (Option Junction × List Symbol)) :
    (joined parts).filterMap Symbol.condition? =
      parts.flatMap fun part => part.2.filterMap Symbol.condition? := by
  have hlink : ∀ link : Option Junction, (linkSymbols link).filterMap Symbol.condition? = [] := by
    intro link
    cases link <;> rfl
  cases parts with
  | nil => rfl
  | cons first rest => simp [joined, List.filterMap_flatMap, hlink]

mutual

/-- The conditions of a text are those of the leaves, in the order of the document. -/
theorem Written.conditions {settings : Settings} {node : Node} {text : List Symbol}
    (hwritten : Written settings node text) :
    (leavesOf node).map (leafCondition settings) =
      (text.filterMap Symbol.condition?).map .ok := by
  cases hwritten with
  | leaf hcondition =>
      rw [leavesOf, List.map_singleton, hcondition]
      rfl
  | @group link inverted members parts hmembers hlinks =>
      have htext : List.filterMap Symbol.condition?
          (negationIf inverted ++ .opening :: (joined parts ++ [.closing])) =
            (joined parts).filterMap Symbol.condition? := by
        cases inverted <;> simp [negationIf, List.filterMap_cons, Symbol.condition?]
      rw [leavesOf, htext, conditions_joined]
      exact hmembers.conditions

theorem WrittenAll.conditions {settings : Settings} {nodes : List Node}
    {parts : List (Option Junction × List Symbol)} (hwritten : WrittenAll settings nodes parts) :
    (allLeavesOf nodes).map (leafCondition settings) =
      (parts.flatMap fun part => part.2.filterMap Symbol.condition?).map .ok := by
  cases hwritten with
  | nil => rfl
  | cons hnode hnodes =>
      rw [allLeavesOf, List.map_append, hnode.conditions, hnodes.conditions, List.flatMap_cons,
        List.map_append]

end

/-- The conditions of the leaves stand in the program in the order of the document. -/
theorem conditions_program {settings : Settings} {nodes : List Node} {emitted : List Symbol}
    {formula : Formula} (hsymbols : symbols settings nodes = .ok emitted)
    (hderives : Derives .expression emitted formula) :
    (allLeavesOf nodes).map (leafCondition settings) =
      (formula.program.filterMap Instruction.condition?).map .ok := by
  obtain ⟨parts, rfl, hwritten, -⟩ := writtenAll_of_symbols hsymbols
  rw [hderives.conditions_eq, conditions_joined]
  exact hwritten.conditions

/-- The column that a leaf reads once its name is resolved; labels are in none. -/
def leafColumn? (settings : Settings) : Leaf → Option String
  | .text leaf => leaf.columnName.map settings.resolve
  | .number leaf => leaf.columnName.map settings.resolve
  | .flag leaf => leaf.columnName.map settings.resolve
  | .label _ _ => none

theorem checkColumn_eq_ok {settings : Settings} {subject : Subject} {leaf : ColumnLeaf}
    {column : String} (hcheck : checkColumn settings subject leaf = .ok column) :
    leaf.columnName.map settings.resolve = some column := by
  rw [checkColumn] at hcheck
  split at hcheck
  · cases hcheck
  · cases hcheck
  · next name _ hname =>
      cases hcheck
      rw [hname]
      rfl

section LeafConditions

variable {settings : Settings} {leaf : ColumnLeaf} {condition : Condition}

theorem exists_text_of_leafCondition
    (hcondition : leafCondition settings (.text leaf) = .ok condition) :
    ∃ content, condition = .text content ∧
      leaf.columnName.map settings.resolve = some content.column := by
  rw [leafCondition, textCondition] at hcondition
  obtain ⟨column, hcolumn, hcondition⟩ := bind_eq_ok hcondition
  obtain ⟨operation, -, hcondition⟩ := bind_eq_ok hcondition
  obtain ⟨test, -, hcondition⟩ := bind_eq_ok hcondition
  obtain ⟨literal, -, hcondition⟩ := bind_eq_ok hcondition
  cases hcondition
  exact ⟨_, rfl, checkColumn_eq_ok hcolumn⟩

/-- The bound of a number condition is the number that the literal of its leaf holds. -/
theorem exists_number_of_leafCondition
    (hcondition : leafCondition settings (.number leaf) = .ok condition) :
    ∃ content, condition = .number content ∧
      leaf.columnName.map settings.resolve = some content.column ∧
        leaf.value.bind Literal.toNumber? = some content.value := by
  rw [leafCondition, numberCondition] at hcondition
  obtain ⟨column, hcolumn, hcondition⟩ := bind_eq_ok hcondition
  obtain ⟨operation, -, hcondition⟩ := bind_eq_ok hcondition
  obtain ⟨comparison, -, hcondition⟩ := bind_eq_ok hcondition
  obtain ⟨literal, hliteral, hcondition⟩ := bind_eq_ok hcondition
  cases hvalue : leaf.value with
  | none =>
      rw [hvalue] at hliteral
      cases hliteral
  | some given =>
      rw [hvalue] at hliteral
      cases hliteral
      split at hcondition
      · next bound hbound =>
          cases hcondition
          exact ⟨_, rfl, checkColumn_eq_ok hcolumn, hbound⟩
      · cases hcondition

theorem exists_flag_of_leafCondition
    (hcondition : leafCondition settings (.flag leaf) = .ok condition) :
    ∃ content, condition = .flag content ∧
      leaf.columnName.map settings.resolve = some content.column := by
  rw [leafCondition, flagCondition] at hcondition
  obtain ⟨column, hcolumn, hcondition⟩ := bind_eq_ok hcondition
  obtain ⟨_, -, hcondition⟩ := bind_eq_ok hcondition
  cases hcondition
  exact ⟨_, rfl, checkColumn_eq_ok hcolumn⟩

theorem exists_label_of_leafCondition {kind : LabelKind} {leaf : LabelLeaf}
    (hcondition : leafCondition settings (.label kind leaf) = .ok condition) :
    ∃ content, condition = .label kind content := by
  rw [leafCondition, labelCondition] at hcondition
  obtain ⟨operation, -, hcondition⟩ := bind_eq_ok hcondition
  split at hcondition
  · cases hcondition
  · obtain ⟨literal, -, hcondition⟩ := bind_eq_ok hcondition
    cases hcondition
    exact ⟨_, rfl⟩

end LeafConditions

theorem column?_of_leafCondition {settings : Settings} {leaf : Leaf} {condition : Condition}
    (hcondition : leafCondition settings leaf = .ok condition) :
    condition.column? = leafColumn? settings leaf := by
  cases leaf with
  | text leaf =>
      obtain ⟨content, rfl, hcolumn⟩ := exists_text_of_leafCondition hcondition
      exact hcolumn.symm
  | number leaf =>
      obtain ⟨content, rfl, hcolumn, -⟩ := exists_number_of_leafCondition hcondition
      exact hcolumn.symm
  | flag leaf =>
      obtain ⟨content, rfl, hcolumn⟩ := exists_flag_of_leafCondition hcondition
      exact hcolumn.symm
  | label kind leaf =>
      obtain ⟨content, rfl⟩ := exists_label_of_leafCondition hcondition
      rfl

/-- The columns that the leaves of a query read, in the order of the document. -/
def leafColumns (settings : Settings) (query : Query) : List String :=
  (allLeavesOf query.nodes).filterMap (leafColumn? settings)

theorem leafColumns_of_leafCount_eq_zero (settings : Settings) {query : Query}
    (hleaves : query.leafCount = 0) : query.leafColumns settings = [] := by
  rw [leafCount, leafCounts_eq_length, List.length_eq_zero_iff] at hleaves
  rw [leafColumns, hleaves]
  rfl

end Query

end FacetFilter
