import FacetFilter.Proofs.Json.Printer
import FacetFilter.Proofs.Membership
import FacetFilter.Query.Document

/-!
# What of a document is read

A document is read through its members alone, each found by its name, and only
through those that are recognised: two of a query, and of a node its link, its type
and the members of that type.  The order of members, the earlier values of a name
and whatever else the objects hold change neither the query nor the defect that is
told first.  A text is a document here if it is read into a value at all, so what
is not recognised may hold any value that a document can hold.
-/

namespace FacetFilter

namespace Json

/-! ## Contents -/

/-- Members in the order of their names, each name once. -/
abbrev Members := Ascending (Prod.fst : String × Json → String)

mutual

/-- The value without the order of its members and without the earlier values of a name. -/
def contents : Json → Json
  | .array items => .array (itemsContents items)
  | .object members => .object (Ascending.ofList (membersContents members) : Members).toList
  | other => other

def itemsContents : List Json → List Json
  | [] => []
  | item :: items => contents item :: itemsContents items

def membersContents : List (String × Json) → List (String × Json)
  | [] => []
  | (name, value) :: members => (name, contents value) :: membersContents members

end

theorem itemsContents_eq_map (items : List Json) : itemsContents items = items.map contents := by
  induction items with
  | nil => rfl
  | cons item items ih => rw [itemsContents, ih, List.map_cons]

theorem membersContents_eq_map (members : List (String × Json)) :
    membersContents members = members.map fun member => (member.1, member.2.contents) := by
  induction members with
  | nil => rfl
  | cons member members ih => rw [membersContents, ih, List.map_cons]

end Json

namespace Query

open Json (Defect Members)

theorem member?_eq_find?_ofList (name : String) (members : List (String × Json)) :
    member? name members = ((Ascending.ofList members : Members).find? name).map Prod.snd := by
  rw [Ascending.find?_ofList, member?]

/-- The members of the contents of an object. -/
def contentMembers (members : List (String × Json)) : List (String × Json) :=
  (Ascending.ofList (Json.membersContents members) : Members).toList

theorem contents_object (members : List (String × Json)) :
    (Json.object members).contents = .object (contentMembers members) := rfl

theorem member?_contentMembers (name : String) (members : List (String × Json)) :
    member? name (contentMembers members) = (member? name members).map Json.contents := by
  rw [contentMembers, member?_eq_find?_ofList, Ascending.ofList_toList, ← member?_eq_find?_ofList,
    Json.membersContents_eq_map, member?, member?, ← List.map_reverse, List.find?_map]
  simp [Function.comp_def]

theorem toList_ofList_contentMembers (members : List (String × Json)) :
    (Ascending.ofList (contentMembers members) : Members).toList =
      (Ascending.ofList members : Members).toList.map
        fun member => (member.1, member.2.contents) := by
  rw [contentMembers, Ascending.ofList_toList, Json.membersContents_eq_map]
  exact Ascending.toList_ofList_map _ (fun _ => rfl) members

theorem contentMembers_ne_nil (member : String × Json) (members : List (String × Json)) :
    contentMembers (member :: members) ≠ [] :=
  mt Ascending.toList_ofList_eq_nil_iff.mp (List.cons_ne_nil _ _)

/-! ## Readers of the contents -/

section Contents

variable (name : String) (members : List (String × Json))

theorem readFlag_contentMembers :
    readFlag name (contentMembers members) = readFlag name members := by
  rw [readFlag, readFlag, member?_contentMembers]
  rcases member? name members with _ | _ | _ | _ | _ | _ | _ <;> rfl

theorem readText_contentMembers :
    readText name (contentMembers members) = readText name members := by
  rw [readText, readText, member?_contentMembers]
  rcases member? name members with _ | _ | _ | _ | _ | _ | _ <;> rfl

theorem readLiteral_contentMembers :
    readLiteral name (contentMembers members) = readLiteral name members := by
  rw [readLiteral, readLiteral, member?_contentMembers]
  rcases member? name members with _ | _ | _ | _ | _ | _ | _ <;> rfl

theorem readColumnLeaf_contentMembers :
    readColumnLeaf (contentMembers members) = readColumnLeaf members := by
  simp only [readColumnLeaf, readFlag_contentMembers, readText_contentMembers,
    readLiteral_contentMembers]

theorem readLabelLeaf_contentMembers :
    readLabelLeaf (contentMembers members) = readLabelLeaf members := by
  simp only [readLabelLeaf, readFlag_contentMembers, readText_contentMembers,
    readLiteral_contentMembers]

theorem readType_contentMembers :
    NodeType.read (contentMembers members) = NodeType.read members := by
  rw [NodeType.read, NodeType.read, member?_contentMembers]
  rcases member? "type" members with _ | _ | _ | _ | _ | _ | _ <;> rfl

/-- The map of a link is held to a single name, so its own order and repetitions are forgotten
by the reader already. -/
theorem readLink_contentMembers (grouped : Bool) :
    readLink grouped (contentMembers members) = readLink grouped members := by
  rw [readLink, readLink, member?_contentMembers]
  rcases member? "operator" members with _ | _ | _ | _ | _ | _ | entries
  case some.object =>
    simp only [Option.map_some, contents_object, toList_ofList_contentMembers]
    rcases (Ascending.ofList entries : Members).toList with _ | ⟨⟨name, value⟩, _ | ⟨_, _⟩⟩
    · rfl
    · rcases value with _ | _ | _ | _ | _ | inner
      case object =>
        cases inner with
        | nil => rfl
        | cons first rest =>
            obtain ⟨head, tail, hinner⟩ :=
              List.exists_cons_of_ne_nil (contentMembers_ne_nil first rest)
            simp only [List.map_cons, List.map_nil, contents_object, hinner]
            rfl
      all_goals rfl
    · rfl
  all_goals rfl

end Contents

/-- Nodes are read from their contents as they are, if each node is. -/
theorem readNodes_contents {read : Json → Except Defect Node}
    (hread : ∀ node, read node.contents = read node) (given : Option Json) :
    readNodes read (given.map Json.contents) = readNodes read given := by
  rcases given with _ | _ | _ | _ | _ | items | _
  case some.array =>
    have hcomp : read ∘ Json.contents = read := funext hread
    rw [Option.map_some, Json.contents, Json.itemsContents_eq_map, readNodes, readNodes,
      List.mapM_map, hcomp]
  all_goals rfl

theorem readNode_contents (grouped : Bool) (depth : Nat) (node : Json) :
    readNode grouped depth node.contents = readNode grouped depth node := by
  induction depth generalizing grouped node with
  | zero => rfl
  | succ depth ih =>
      cases node with
      | object members =>
          simp only [contents_object, readNode, readLink_contentMembers, readType_contentMembers,
            readColumnLeaf_contentMembers, readLabelLeaf_contentMembers, member?_contentMembers,
            readNodes_contents (ih true), readFlag_contentMembers]
      | _ => rfl

theorem ofJson_contents (document : Json) : ofJson document.contents = ofJson document := by
  cases document with
  | array items =>
      have hnodes := readNodes_contents (readNode_contents false Json.maxDepth)
        (some (.array items))
      rw [Option.map_some] at hnodes
      simp only [Json.contents] at hnodes ⊢
      simp only [ofJson, hnodes]
  | object members =>
      simp only [contents_object, ofJson, member?_contentMembers, readFlag_contentMembers,
        readNodes_contents (readNode_contents false Json.maxDepth)]
  | _ => rfl

/-! ## Recognised members -/

/-- The members that a node has for its type. -/
def NodeType.memberNames : NodeType → List String
  | .text | .number | .flag =>
      ["columnName", "operation", "value", "inverted", "showNull", "caseSensitive"]
  | .label _ => ["operation", "value", "inverted"]
  | .group => ["inverted", "filters"]

/-- The members of a node that are recognised; without a type there are none but the link and the
type itself. -/
def recognisedNames (members : List (String × Json)) : List String :=
  "operator" :: "type" ::
    match NodeType.read members with
    | .ok type => type.memberNames
    | .error _ => []

mutual

/-- The node with what is recognised of it. -/
def recognisedNode : Json → Json
  | .object members => .object (recognisedMembers (recognisedNames members) members)
  | other => other

def recognisedNodes : List Json → List Json
  | [] => []
  | node :: nodes => recognisedNode node :: recognisedNodes nodes

/-- The members with the given names, and what is recognised of the nodes that they hold. -/
def recognisedMembers (names : List String) : List (String × Json) → List (String × Json)
  | [] => []
  | (name, value) :: members =>
      if names.contains name then
        (name, if name = "filters" then recognisedFilters value else value) ::
          recognisedMembers names members
      else recognisedMembers names members

def recognisedFilters : Json → Json
  | .array nodes => .array (recognisedNodes nodes)
  | other => other

end

/-- A bare array stands for an object that has it as its `filters`. -/
def asObject : Json → Json
  | .array nodes => .object [("filters", .array nodes)]
  | other => other

/-- The query document with what is recognised of it. -/
def recognised : Json → Json
  | .object members => .object (recognisedMembers ["filters", "inverted"] members)
  | other => other

/-- What of a document is read. -/
def essence (document : Json) : Json := recognised (asObject document).contents

theorem recognisedNodes_eq_map (nodes : List Json) :
    recognisedNodes nodes = nodes.map recognisedNode := by
  induction nodes with
  | nil => rfl
  | cons node nodes ih => rw [recognisedNodes, ih, List.map_cons]

theorem recognisedMembers_eq_map (names : List String) (members : List (String × Json)) :
    recognisedMembers names members = (members.filter fun member => names.contains member.1).map
      fun member =>
        (member.1, if member.1 = "filters" then recognisedFilters member.2 else member.2) := by
  induction members with
  | nil => rfl
  | cons member members ih =>
      rw [recognisedMembers, ih, List.filter_cons]
      split <;> rfl

section Recognised

variable {name : String} {names : List String}

theorem member?_recognisedMembers (hname : name ∈ names) (members : List (String × Json)) :
    member? name (recognisedMembers names members) = (member? name members).map
      fun value => if name = "filters" then recognisedFilters value else value := by
  have hkept : ∀ member : String × Json,
      decide (names.contains member.1 = true ∧ (member.1 == name) = true) =
        (member.1 == name) := by
    intro member
    by_cases hmember : member.1 = name <;> simp [hmember, hname]
  rw [recognisedMembers_eq_map, member?, member?, ← List.map_reverse, ← List.filter_reverse,
    List.find?_map, List.find?_filter]
  simp only [Function.comp_def, hkept]
  cases hmember : members.reverse.find? fun member => member.1 == name with
  | none => rfl
  | some member =>
      have hkey : member.1 = name := by simpa using List.find?_some hmember
      simp [hkey]

theorem member?_recognisedMembers_of_ne (hname : name ∈ names) (hne : name ≠ "filters")
    (members : List (String × Json)) :
    member? name (recognisedMembers names members) = member? name members := by
  simp [member?_recognisedMembers hname, hne]

theorem member?_recognisedMembers_filters (hname : "filters" ∈ names)
    (members : List (String × Json)) :
    member? "filters" (recognisedMembers names members) =
      (member? "filters" members).map recognisedFilters := by
  simp [member?_recognisedMembers hname]

end Recognised

/-! ## Readers of what is recognised -/

section Readers

variable {first second : List (String × Json)}

theorem readFlag_congr {name : String} (hmember : member? name first = member? name second) :
    readFlag name first = readFlag name second := by
  rw [readFlag, readFlag, hmember]

theorem readLink_congr (grouped : Bool)
    (hmember : member? "operator" first = member? "operator" second) :
    readLink grouped first = readLink grouped second := by
  rw [readLink, readLink, hmember]

theorem readType_congr (hmember : member? "type" first = member? "type" second) :
    NodeType.read first = NodeType.read second := by
  rw [NodeType.read, NodeType.read, hmember]

theorem readColumnLeaf_congr
    (hmember : ∀ name ∈ NodeType.text.memberNames, member? name first = member? name second) :
    readColumnLeaf first = readColumnLeaf second := by
  simp (disch := decide) only [readColumnLeaf, readFlag, readText, readLiteral, hmember]

theorem readLabelLeaf_congr {kind : LabelKind}
    (hmember : ∀ name ∈ (NodeType.label kind).memberNames,
      member? name first = member? name second) :
    readLabelLeaf first = readLabelLeaf second := by
  have hmember : ∀ name ∈ ["operation", "value", "inverted"],
      member? name first = member? name second := hmember
  simp (disch := decide) only [readLabelLeaf, readFlag, readText, readLiteral, hmember]

end Readers

/-- Nodes are read from what is recognised of them as they are, if each node is. -/
theorem readNodes_recognised {read : Json → Except Defect Node}
    (hread : ∀ node, read (recognisedNode node) = read node) (given : Option Json) :
    readNodes read (given.map recognisedFilters) = readNodes read given := by
  rcases given with _ | _ | _ | _ | _ | nodes | _
  case some.array =>
    have hcomp : read ∘ recognisedNode = read := funext hread
    rw [Option.map_some, recognisedFilters, recognisedNodes_eq_map, readNodes, readNodes,
      List.mapM_map, hcomp]
  all_goals rfl

theorem readNode_recognised (grouped : Bool) (depth : Nat) (node : Json) :
    readNode grouped depth (recognisedNode node) = readNode grouped depth node := by
  induction depth generalizing grouped node with
  | zero => rfl
  | succ depth ih =>
      cases node with
      | object members =>
          have hmember {name : String} (hname : name ∈ recognisedNames members)
              (hne : name ≠ "filters") :
              member? name (recognisedMembers (recognisedNames members) members) =
                member? name members := member?_recognisedMembers_of_ne hname hne members
          have hlink := readLink_congr grouped (hmember List.mem_cons_self (by decide))
          have htype := readType_congr
            (hmember (List.mem_cons_of_mem _ List.mem_cons_self) (by decide))
          rw [recognisedNode, readNode, readNode, hlink, htype]
          refine bind_congr fun link => ?_
          cases hread : NodeType.read members with
          | error defect => rfl
          | ok type =>
              have hown {name : String} (hname : name ∈ type.memberNames) :
                  name ∈ recognisedNames members := by
                simp [recognisedNames, hread, hname]
              cases type with
              | text | number | flag =>
                  have hleaf := readColumnLeaf_congr fun name hname =>
                    hmember (hown hname) (by rintro rfl; revert hname; decide)
                  simp only [bind, Except.bind, hleaf]
              | label kind =>
                  have hleaf := readLabelLeaf_congr fun name hname =>
                    hmember (hown hname) (by rintro rfl; revert hname; simp [NodeType.memberNames])
                  simp only [bind, Except.bind, hleaf]
              | group =>
                  have hfilters := member?_recognisedMembers_filters
                    (hown (by decide : "filters" ∈ NodeType.group.memberNames)) members
                  have hinverted := readFlag_congr (hmember
                    (hown (by decide : "inverted" ∈ NodeType.group.memberNames)) (by decide))
                  simp only [bind, Except.bind, hfilters, readNodes_recognised (ih true), hinverted]
      | _ => rfl

theorem ofJson_asObject (document : Json) : ofJson (asObject document) = ofJson document := by
  cases document <;> rfl

theorem ofJson_recognised (document : Json) :
    ofJson (recognised document) = ofJson document := by
  cases document with
  | object members =>
      have hfilters := member?_recognisedMembers_filters
        (by decide : "filters" ∈ ["filters", "inverted"]) members
      have hinverted := readFlag_congr (member?_recognisedMembers_of_ne
        (by decide : "inverted" ∈ ["filters", "inverted"]) (by decide) members)
      simp only [recognised, ofJson, hfilters, hinverted,
        readNodes_recognised (readNode_recognised false Json.maxDepth)]
  | _ => rfl

/-- Everything that is read of a document is in its essence. -/
theorem ofJson_essence (document : Json) : ofJson (essence document) = ofJson document := by
  rw [essence, ofJson_recognised, ofJson_contents, ofJson_asObject]

/-- Two documents whose essence is the same are read as the same query or refused for the same
defect. -/
theorem ofText_eq_of_essence_eq {text otherText : String} {document otherDocument : Json}
    (hdocument : Json.parse? text = some document)
    (hother : Json.parse? otherText = some otherDocument)
    (hessence : essence document = essence otherDocument) : ofText text = ofText otherText := by
  have hread {text : String} {document : Json} (hdocument : Json.parse? text = some document) :
      ofText text = ofJson (essence document) := by
    rw [ofText, hdocument, ofJson_essence]
  rw [hread hdocument, hread hother, hessence]

/-- A bare array with a label whose value is given twice, and which asks for null as labels never
do; and the same query in another order, beside a note. -/
theorem ofText_eq_of_essence_eq_tagged :
    let bare : Json := .array [.object [("value", .string "red"), ("type", .string "tag"),
      ("showNull", .string "no"), ("value", .string "blue")]]
    let noted : Json := .object [("note", .array []),
      ("filters", .array [.object [("type", .string "tag"), ("value", .string "blue")]])]
    Json.parse? bare.render = some bare ∧ Json.parse? noted.render = some noted ∧
      essence bare = essence noted ∧ ofText bare.render = ofText noted.render := by
  intro bare noted
  have hbare : Json.parse? bare.render = some bare :=
    Json.parse?_render ⟨⟨trivial, trivial, trivial, trivial, trivial⟩, trivial⟩ (by decide)
  have hnoted : Json.parse? noted.render = some noted :=
    Json.parse?_render ⟨trivial, ⟨⟨trivial, trivial, trivial⟩, trivial⟩, trivial⟩ (by decide)
  have hessence : essence bare = essence noted := rfl
  exact ⟨hbare, hnoted, hessence, ofText_eq_of_essence_eq hbare hnoted hessence⟩

end Query

end FacetFilter
