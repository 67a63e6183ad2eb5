import FacetFilter.Query.Document
import FacetFilter.Proofs.Json.Printer
import FacetFilter.Proofs.Query.Expression

/-!
# Query documents written and read

A query is read back from the document that is written for it.  A leaf stands in
one object with its link and its type, so that a member is looked up among those
of the leaf first, the last of a name being the one that counts.
-/

namespace FacetFilter

/-! ## What a query may hold -/

/-- A document has no text for a number that is not finite. -/
def Leaf.IsFinite (leaf : Leaf) : Prop :=
  ∀ value, leaf.value? = some (.number value) → value.isFinite = true

namespace Query

open Json (Defect MembersWritable)

/-! ## Members -/

theorem member?_append (name : String) (first second : List (String × Json)) :
    member? name (first ++ second) = (member? name second).or (member? name first) := by
  rw [member?, List.reverse_append, List.find?_append, Option.map_or]
  rfl

theorem member?_append_of_some {name : String} {value : Json} (first : List (String × Json))
    {second : List (String × Json)} (hmember : member? name second = some value) :
    member? name (first ++ second) = some value := by
  rw [member?_append, hmember, Option.some_or]

variable {name : String} {members : List (String × Json)}

theorem readFlag_eq_ok {value : Bool} (hmember : member? name members = some (.bool value)) :
    readFlag name members = .ok value := by
  rw [readFlag, hmember]

theorem readText_eq_ok {value : Option String}
    (hmember : member? name members = some (textJson value)) :
    readText name members = .ok value := by
  rw [readText, hmember]
  cases value <;> rfl

theorem readLiteral_eq_ok {value : Option Literal}
    (hmember : member? name members = some (literalJson value)) :
    readLiteral name members = .ok value := by
  rw [readLiteral, hmember]
  rcases value with _ | value
  · rfl
  · cases value <;> rfl

/-! ## Leaves -/

theorem readColumnLeaf_eq_ok {first : List (String × Json)} {type : Json} {leaf : ColumnLeaf}
    (hmembers : members = first ++ ("type", type) :: columnLeafMembers leaf) :
    readColumnLeaf members = .ok leaf := by
  have hmember {name : String} {value : Json}
      (hlast : member? name (("type", type) :: columnLeafMembers leaf) = some value) :
      member? name members = some value := by
    rw [hmembers]
    exact member?_append_of_some first hlast
  have hcase : readFlag "caseSensitive" members = .ok leaf.caseSensitive :=
    readFlag_eq_ok (hmember rfl)
  have hname : readText "columnName" members = .ok leaf.columnName := readText_eq_ok (hmember rfl)
  have hinverted : readFlag "inverted" members = .ok leaf.inverted := readFlag_eq_ok (hmember rfl)
  have hoperation : readText "operation" members = .ok leaf.operation :=
    readText_eq_ok (hmember rfl)
  have hnull : readFlag "showNull" members = .ok leaf.showNull := readFlag_eq_ok (hmember rfl)
  have hvalue : readLiteral "value" members = .ok leaf.value := readLiteral_eq_ok (hmember rfl)
  rw [readColumnLeaf, hcase, hname, hinverted, hoperation, hnull, hvalue]
  rfl

theorem readLabelLeaf_eq_ok {first : List (String × Json)} {type : Json} {leaf : LabelLeaf}
    (hmembers : members = first ++ ("type", type) :: labelLeafMembers leaf) :
    readLabelLeaf members = .ok leaf := by
  have hmember {name : String} {value : Json}
      (hlast : member? name (("type", type) :: labelLeafMembers leaf) = some value) :
      member? name members = some value := by
    rw [hmembers]
    exact member?_append_of_some first hlast
  have hinverted : readFlag "inverted" members = .ok leaf.inverted := readFlag_eq_ok (hmember rfl)
  have hoperation : readText "operation" members = .ok leaf.operation :=
    readText_eq_ok (hmember rfl)
  have hvalue : readLiteral "value" members = .ok leaf.value := readLiteral_eq_ok (hmember rfl)
  rw [readLabelLeaf, hinverted, hoperation, hvalue]
  rfl

theorem readLink_append (grouped : Bool) (link : Option Junction)
    (hmember : member? "operator" members = none) :
    readLink grouped (linkMembers link ++ members) = .ok link := by
  rw [readLink, member?_append, hmember, Option.none_or]
  rcases link with _ | junction
  · rfl
  · cases junction <;> rfl

theorem read_eq_ok {type : NodeType}
    (hmember : member? "type" members = some (.string type.name)) :
    NodeType.read members = .ok type := by
  rw [NodeType.read, hmember]
  cases type with
  | label kind => cases kind <;> rfl
  | _ => rfl

/-! ## Nodes -/

def leafType : Leaf → NodeType
  | .text _ => .text
  | .number _ => .number
  | .flag _ => .flag
  | .label kind _ => .label kind

theorem readNode_leaf (link : Option Junction) (leaf : Leaf) (grouped : Bool) (depth : Nat) :
    readNode grouped (depth + 1) (nodeJson (.leaf link leaf)) = .ok (.leaf link leaf) := by
  have hoperator : member? "operator" (leafMembers leaf) = none := by cases leaf <;> rfl
  have hname : member? "type" (leafMembers leaf) = some (.string (leafType leaf).name) := by
    cases leaf <;> rfl
  have hlink := readLink_append grouped link hoperator
  have htype := read_eq_ok (member?_append_of_some (linkMembers link) hname)
  simp only [nodeJson, readNode, hlink, htype, bind, Except.bind]
  cases leaf with
  | label kind leaf =>
      simp only [leafType, leafMembers, readLabelLeaf_eq_ok rfl]
      rfl
  | text leaf | number leaf | flag leaf =>
      simp only [leafType, leafMembers, readColumnLeaf_eq_ok rfl]
      rfl

/-- The members of a group, behind its link. -/
def groupMembers (inverted : Bool) (nodes : List Node) : List (String × Json) :=
  [("type", .string NodeType.group.name), ("inverted", .bool inverted),
    ("filters", .array (nodesJson nodes))]

theorem readNode_group (link : Option Junction) (inverted : Bool) {nodes : List Node}
    (grouped : Bool) {depth : Nat}
    (hnodes : (nodesJson nodes).mapM (readNode true depth) = .ok nodes) :
    readNode grouped (depth + 1) (nodeJson (.group link inverted nodes)) =
      .ok (.group link inverted nodes) := by
  have hlink := readLink_append grouped link
    (rfl : member? "operator" (groupMembers inverted nodes) = none)
  have htype : NodeType.read (linkMembers link ++ groupMembers inverted nodes) = .ok .group :=
    read_eq_ok (member?_append_of_some (linkMembers link) rfl)
  have hinverted : readFlag "inverted" (linkMembers link ++ groupMembers inverted nodes) =
      .ok inverted :=
    readFlag_eq_ok (member?_append_of_some (linkMembers link) rfl)
  have hfilters : member? "filters" (linkMembers link ++ groupMembers inverted nodes) =
      some (.array (nodesJson nodes)) :=
    member?_append_of_some (linkMembers link) rfl
  rw [groupMembers] at hlink htype hinverted hfilters
  simp only [nodeJson, readNode, hlink, htype, hinverted, hfilters, readNodes, hnodes, bind,
    Except.bind]
  rfl

theorem depth_nodeJson_pos (node : Node) : 0 < (nodeJson node).depth := by
  cases node <;> exact Nat.zero_lt_succ _

mutual

/-- A node is read back within as many groups as its document nests. -/
theorem readNode_nodeJson : ∀ (node : Node) (grouped : Bool) (depth : Nat),
    (nodeJson node).depth ≤ depth → readNode grouped depth (nodeJson node) = .ok node
  | node, _, 0, hdepth => absurd (depth_nodeJson_pos node) (Nat.not_lt.mpr hdepth)
  | .leaf link leaf, grouped, depth + 1, _ => readNode_leaf link leaf grouped depth
  | .group link inverted nodes, grouped, depth + 1, hdepth => by
      have hfilters : Json.itemsDepth (nodesJson nodes) <
          Json.membersDepth (linkMembers link ++ groupMembers inverted nodes) := by
        apply Json.itemsDepth_lt_membersDepth
        apply List.mem_append_right
        exact List.mem_cons_of_mem _ (List.mem_cons_of_mem _ (List.mem_singleton_self _))
      rw [nodeJson, ← groupMembers, Json.depth] at hdepth
      exact readNode_group link inverted grouped
        (mapM_readNode_nodesJson nodes true depth (by omega))

theorem mapM_readNode_nodesJson : ∀ (nodes : List Node) (grouped : Bool) (depth : Nat),
    Json.itemsDepth (nodesJson nodes) ≤ depth →
      (nodesJson nodes).mapM (readNode grouped depth) = .ok nodes
  | [], _, _, _ => rfl
  | node :: nodes, grouped, depth, hdepth => by
      rw [nodesJson, Json.itemsDepth] at hdepth
      have hnode := readNode_nodeJson node grouped depth (by omega)
      have hnodes := mapM_readNode_nodesJson nodes grouped depth (by omega)
      rw [nodesJson, List.mapM_cons, hnode, hnodes]
      rfl

end

theorem ofJson_toJson {query : Query} (hdepth : query.toJson.depth ≤ Json.maxDepth) :
    ofJson query.toJson = .ok query := by
  have hfilters : Json.itemsDepth (nodesJson query.nodes) <
      Json.membersDepth [("filters", .array (nodesJson query.nodes)),
        ("inverted", .bool query.inverted)] :=
    Json.itemsDepth_lt_membersDepth List.mem_cons_self
  rw [toJson, Json.depth] at hdepth
  have hnodes := mapM_readNode_nodesJson query.nodes false Json.maxDepth (by omega)
  have hmember : member? "filters" [("filters", .array (nodesJson query.nodes)),
      ("inverted", .bool query.inverted)] = some (.array (nodesJson query.nodes)) := rfl
  have hinverted : readFlag "inverted" [("filters", .array (nodesJson query.nodes)),
      ("inverted", .bool query.inverted)] = .ok query.inverted := readFlag_eq_ok rfl
  simp only [toJson, ofJson, hmember, readNodes, hnodes, hinverted, bind, Except.bind]
  rfl

/-! ## Numbers -/

theorem membersWritable_append {first second : List (String × Json)}
    (hfirst : MembersWritable first) (hsecond : MembersWritable second) :
    MembersWritable (first ++ second) := by
  induction first with
  | nil => exact hsecond
  | cons member first ih => exact ⟨hfirst.1, ih hfirst.2⟩

theorem membersWritable_linkMembers (link : Option Junction) :
    MembersWritable (linkMembers link) := by
  cases link with
  | none => trivial
  | some junction => exact ⟨trivial, trivial⟩

theorem isWritable_textJson (text : Option String) : (textJson text).IsWritable := by
  cases text <;> trivial

theorem isWritable_literalJson {value : Option Literal}
    (hfinite : ∀ number, value = some (.number number) → number.isFinite = true) :
    (literalJson value).IsWritable := by
  cases value with
  | none => trivial
  | some value =>
      cases value with
      | number number => exact hfinite number rfl
      | bool value => trivial
      | text value => trivial

theorem membersWritable_columnLeafMembers {leaf : ColumnLeaf}
    (hvalue : (literalJson leaf.value).IsWritable) : MembersWritable (columnLeafMembers leaf) :=
  ⟨isWritable_textJson _, isWritable_textJson _, hvalue, trivial, trivial, trivial, trivial⟩

theorem membersWritable_leafMembers {leaf : Leaf} (hfinite : leaf.IsFinite) :
    MembersWritable (leafMembers leaf) := by
  have hvalue := isWritable_literalJson hfinite
  cases leaf with
  | label kind leaf => exact ⟨trivial, isWritable_textJson _, hvalue, trivial, trivial⟩
  | text leaf | number leaf | flag leaf =>
      exact ⟨trivial, membersWritable_columnLeafMembers hvalue⟩

mutual

theorem isWritable_nodeJson : ∀ (node : Node), (∀ leaf ∈ leavesOf node, leaf.IsFinite) →
    (nodeJson node).IsWritable
  | .leaf link leaf, hfinite =>
      membersWritable_append (membersWritable_linkMembers link)
        (membersWritable_leafMembers (hfinite leaf (List.mem_singleton_self leaf)))
  | .group link inverted nodes, hfinite => by
      have hnodes := itemsWritable_nodesJson nodes hfinite
      exact membersWritable_append (membersWritable_linkMembers link)
        ⟨trivial, trivial, hnodes, trivial⟩

theorem itemsWritable_nodesJson : ∀ (nodes : List Node),
    (∀ leaf ∈ allLeavesOf nodes, leaf.IsFinite) → Json.ItemsWritable (nodesJson nodes)
  | [], _ => trivial
  | node :: nodes, hfinite => by
      have hleaves := List.forall_mem_append.mp hfinite
      exact ⟨isWritable_nodeJson node hleaves.1, itemsWritable_nodesJson nodes hleaves.2⟩

end

theorem isWritable_toJson {query : Query}
    (hfinite : ∀ leaf ∈ allLeavesOf query.nodes, leaf.IsFinite) :
    query.toJson.IsWritable :=
  ⟨itemsWritable_nodesJson query.nodes hfinite, trivial, trivial⟩

/-! ## Equality -/

theorem beq_self_double {value : Binary64} (hfinite : value.isFinite = true) :
    (value == value) = true := by
  cases value with
  | nan => cases hfinite
  | infinite negative => cases hfinite
  | finite negative units hunits =>
      change (Binary64.compare? _ _ == some .eq) = true
      simp [Binary64.compare?, Binary64.position]

theorem beq_self_value {value : Option Literal}
    (hfinite : ∀ number, value = some (.number number) → number.isFinite = true) :
    (value == value) = true := by
  cases value with
  | none => rfl
  | some value =>
      cases value with
      | number number => exact beq_self_double (hfinite number rfl)
      | bool value => cases value <;> rfl
      | text value => exact beq_self_eq_true value

theorem beq_self_columnLeaf {leaf : ColumnLeaf} (hvalue : (leaf.value == leaf.value) = true) :
    (leaf == leaf) = true := by
  change instBEqColumnLeaf.beq leaf leaf = true
  simp [instBEqColumnLeaf.beq, hvalue]

theorem beq_self_labelLeaf {leaf : LabelLeaf} (hvalue : (leaf.value == leaf.value) = true) :
    (leaf == leaf) = true := by
  change instBEqLabelLeaf.beq leaf leaf = true
  simp [instBEqLabelLeaf.beq, hvalue]

theorem beq_self_leaf {leaf : Leaf} (hfinite : leaf.IsFinite) : (leaf == leaf) = true := by
  have hvalue := beq_self_value hfinite
  cases leaf with
  | label kind leaf =>
      change (kind == kind && leaf == leaf) = true
      rw [beq_self_eq_true, beq_self_labelLeaf hvalue, Bool.and_self]
  | text leaf | number leaf | flag leaf => exact beq_self_columnLeaf hvalue

mutual

theorem equals_self : ∀ (node : Node), (∀ leaf ∈ leavesOf node, leaf.IsFinite) →
    node.equals node = true
  | .leaf link leaf, hfinite => by
      have hleaf := beq_self_leaf (hfinite leaf (List.mem_singleton_self leaf))
      simp [Node.equals, hleaf]
  | .group link inverted nodes, hfinite => by
      have hnodes := allEqual_self nodes hfinite
      simp [Node.equals, hnodes]

theorem allEqual_self : ∀ (nodes : List Node), (∀ leaf ∈ allLeavesOf nodes, leaf.IsFinite) →
    Node.allEqual nodes nodes = true
  | [], _ => rfl
  | node :: nodes, hfinite => by
      have hleaves := List.forall_mem_append.mp hfinite
      rw [Node.allEqual, equals_self node hleaves.1, allEqual_self nodes hleaves.2]
      rfl

end

/-- A query is read back from what is written for it, and equals itself. -/
theorem ofText_render (query : Query)
    (hfinite : ∀ leaf ∈ allLeavesOf query.nodes, leaf.IsFinite)
    (hdepth : query.toJson.depth ≤ Json.maxDepth) :
    ofText query.render = .ok query ∧ (query == query) = true := by
  refine ⟨?_, ?_⟩
  · rw [ofText, render, Json.parse?_render (isWritable_toJson hfinite) hdepth]
    exact ofJson_toJson hdepth
  · change (Node.allEqual query.nodes query.nodes && query.inverted == query.inverted) = true
    rw [allEqual_self query.nodes hfinite, beq_self_eq_true, Bool.and_self]

/-- A negative zero, then a group of a text with a quote, a backslash, controls and letters
beyond ASCII, and of a color that is given as a number. -/
def zeroXorTexts : Query where
  nodes := [.leaf none (.number ⟨some "score", some "<",
      some (.number (.finite true 0 representable_zero)), false, true, false⟩),
    .group (some .xor) true
      [.leaf (some .and) (.text ⟨some "a \"b\" \\ \n\x01", none, some (.text "žluť 𝒳"),
          true, false, true⟩),
        .leaf (some .or) (.label .color ⟨some "has",
          some (.number (.ofDecimal false 1 (-1))), false⟩)]]
  inverted := true

theorem ofText_render_zeroXorTexts :
    (∀ leaf ∈ allLeavesOf zeroXorTexts.nodes, leaf.IsFinite) ∧
      zeroXorTexts.toJson.depth ≤ Json.maxDepth ∧
        ofText zeroXorTexts.render = .ok zeroXorTexts ∧ (zeroXorTexts == zeroXorTexts) = true := by
  have hfinite : ∀ leaf ∈ allLeavesOf zeroXorTexts.nodes, leaf.IsFinite := by
    intro leaf hmem number hnumber
    simp only [zeroXorTexts, allLeavesOf, leavesOf, List.mem_append, List.mem_singleton,
      List.not_mem_nil, or_false] at hmem
    rcases hmem with rfl | rfl | rfl
    · cases hnumber
      rfl
    · cases hnumber
    · have heq : Binary64.ofDecimal false 1 (-1) = number :=
        Literal.number.inj (Option.some.inj hnumber)
      rw [← heq]
      decide +kernel
  have hdepth : zeroXorTexts.toJson.depth ≤ Json.maxDepth := by decide
  exact ⟨hfinite, hdepth, ofText_render zeroXorTexts hfinite hdepth⟩

end Query

end FacetFilter
