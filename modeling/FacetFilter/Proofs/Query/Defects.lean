import FacetFilter.Proofs.Query.EmptyGroup
import FacetFilter.Proofs.Query.LeafDefects

/-!
# The first defect of a query

A node is defective where the link to the node before it is missing, and a leaf also
by itself.  Each is a matter of the node alone.  Emitting comes to the nodes in the
order of the document, and fails exactly where one is defective, with the first defect
of the first such node; a missing link is named by the number of symbols before it.
-/

namespace FacetFilter.Query

/-! ## Nodes in the order of the document -/

/-- A node as it is come to: whether it leads its siblings, and how many symbols are written
before it. -/
structure Visit where
  node : Node
  leads : Bool
  position : Nat

namespace Visit

def linkDefect? (visit : Visit) : Option QueryFault :=
  if visit.leads = false ∧ visit.node.link = none then some (.missingLink visit.position) else none

/-- The first of some siblings links to nothing. -/
theorem linkDefect?_leading (node : Node) (position : Nat) :
    (Visit.mk node true position).linkDefect? = none := by
  simp [linkDefect?]

/-- The defects of the node in the order in which they are looked for. -/
def defects (visit : Visit) : List QueryFault :=
  visit.linkDefect?.toList ++
    match visit.node with
    | .leaf _ leaf => leaf.defects
    | .group _ _ _ => []

theorem head?_defects_leaf (link : Option Junction) (leaf : Leaf) (leads : Bool)
    (position : Nat) :
    (Visit.mk (.leaf link leaf) leads position).defects.head? =
      (Visit.mk (.leaf link leaf) leads position).linkDefect?.or leaf.defects.head? := by
  simp [defects]

theorem head?_defects_group (link : Option Junction) (inverted : Bool) (members : List Node)
    (leads : Bool) (position : Nat) :
    (Visit.mk (.group link inverted members) leads position).defects.head? =
      (Visit.mk (.group link inverted members) leads position).linkDefect? := by
  simp [defects]

end Visit

/-- The symbols of the link to the node before; the first of some siblings has none. -/
def linkCount (leads : Bool) : Nat := if leads then 0 else 1

mutual

/-- The node and all nodes within it, where `position` symbols are written before it. -/
def visitsOf (leads : Bool) (position : Nat) : Node → List Visit
  | .leaf link leaf => [⟨.leaf link leaf, leads, position⟩]
  | .group link inverted members =>
      ⟨.group link inverted members, leads, position⟩ ::
        visitsAmong true (position + linkCount leads + (negationIf inverted).length + 1) members

/-- Siblings with all nodes within them. -/
def visitsAmong (leads : Bool) (position : Nat) : List Node → List Visit
  | [] => []
  | node :: nodes =>
      visitsOf leads position node ++
        visitsAmong false (position + linkCount leads + symbolCount node) nodes

end

/-- Every node of a document, a group before its members. -/
def visits (nodes : List Node) : List Visit := visitsAmong true 0 nodes

variable {settings : Settings}

/-! ## The first defect -/

def firstDefect? (visits : List Visit) : Option QueryFault :=
  visits.findSome? (·.defects.head?)

theorem firstDefect?_cons (visit : Visit) (visits : List Visit) :
    firstDefect? (visit :: visits) = visit.defects.head?.or (firstDefect? visits) := by
  rw [firstDefect?, List.findSome?_cons]
  cases visit.defects.head? <;> rfl

theorem firstDefect?_append (before after : List Visit) :
    firstDefect? (before ++ after) = (firstDefect? before).or (firstDefect? after) :=
  List.findSome?_append

/-- Behind its link a node is as one that leads its siblings. -/
theorem firstDefect?_visitsOf_false (position : Nat) (node : Node) :
    firstDefect? (visitsOf false position node) =
      (Visit.mk node false position).linkDefect?.or
        (firstDefect? (visitsOf true (position + 1) node)) := by
  cases node with
  | leaf link leaf =>
      simp [visitsOf, Visit.head?_defects_leaf, Visit.linkDefect?_leading, firstDefect?]
  | group link inverted members =>
      simp [visitsOf, firstDefect?_cons, Visit.head?_defects_group, Visit.linkDefect?_leading,
        linkCount]

theorem firstDefect?_leaf (position : Nat) (link : Option Junction) (leaf : Leaf) :
    firstDefect? (visitsOf true position (.leaf link leaf)) = leaf.defects.head? := by
  simp [visitsOf, Visit.head?_defects_leaf, Visit.linkDefect?_leading, firstDefect?]

theorem firstDefect?_group (position : Nat) (link : Option Junction) (inverted : Bool)
    (members : List Node) :
    firstDefect? (visitsOf true position (.group link inverted members)) =
      firstDefect? (visitsAmong true (position + (negationIf inverted).length + 1) members) := by
  simp [visitsOf, firstDefect?_cons, Visit.head?_defects_group, Visit.linkDefect?_leading,
    linkCount]

/-! ## Emitting -/

theorem length_opened (inverted : Bool) (emitted : List Symbol) :
    (opened inverted emitted).length = emitted.length + (negationIf inverted).length + 1 := by
  cases inverted <;> rfl

theorem ends_emitLink (emitted : List Symbol) (node : Node) :
    Ends (·.length = emitted.length + 1) (Visit.mk node false emitted.length).linkDefect?
      (emitLink emitted node) := by
  rw [emitLink, Visit.linkDefect?]
  cases node.link with
  | none => exact .fails _
  | some junction => exact .gives rfl

-- The symbols emitted so far are counted along, since a missing link is named by their number.
mutual

theorem ends_emitNode : ∀ (node : Node) (emitted : List Symbol),
    Ends (·.length = emitted.length + symbolCount node)
      (firstDefect? (visitsOf true emitted.length node)) (emitNode settings emitted node)
  | .leaf link leaf, emitted => by
      rw [emitNode, firstDefect?_leaf]
      exact (ends_leafCondition settings leaf).map fun _ _ => rfl
  | .group link inverted members, emitted => by
      have hmembers := ends_emitNodes members (opened inverted emitted)
      rw [length_opened] at hmembers
      rw [emitNode, firstDefect?_group]
      refine hmembers.map fun out hout => ?_
      rw [List.length_cons, hout, symbolCount]
      omega

theorem ends_emitNodes : ∀ (nodes : List Node) (emitted : List Symbol),
    Ends (·.length = emitted.length + symbolCounts nodes)
      (firstDefect? (visitsAmong true emitted.length nodes)) (emitNodes settings emitted nodes)
  | [], emitted => .gives rfl
  | node :: nodes, emitted => by
      rw [emitNodes, visitsAmong, firstDefect?_append]
      refine (ends_emitNode node emitted).bind fun out hout => ?_
      have hrest := ends_emitRest nodes out
      rw [hout, Nat.add_assoc] at hrest
      exact hrest

theorem ends_emitRest : ∀ (nodes : List Node) (emitted : List Symbol),
    Ends (·.length = emitted.length + linkedCounts nodes)
      (firstDefect? (visitsAmong false emitted.length nodes)) (emitRest settings emitted nodes)
  | [], emitted => .gives rfl
  | node :: nodes, emitted => by
      rw [emitRest, visitsAmong, firstDefect?_append, firstDefect?_visitsOf_false, Option.or_assoc]
      refine (ends_emitLink emitted node).bind fun linked hlinked => ?_
      have hnode := ends_emitNode node linked
      rw [hlinked] at hnode
      refine hnode.bind fun out hout => ?_
      have hrest := ends_emitRest nodes out
      simp only [hout, Nat.add_assoc] at hrest
      simpa [linkCount, linkedCounts, Nat.add_assoc] using hrest

end

/-- Emitting fails exactly if a node is defective, with the first defect of the first such
node in the order of the document. -/
theorem symbols_eq_error_iff (settings : Settings) (nodes : List Node) :
    ((∃ fault, symbols settings nodes = .error fault) ↔
        ∃ visit ∈ visits nodes, visit.defects ≠ []) ∧
      ∀ fault, symbols settings nodes = .error fault ↔
        ∃ before visit after, visits nodes = before ++ visit :: after ∧
          (∀ earlier ∈ before, earlier.defects = []) ∧ visit.defects.head? = some fault := by
  have hends : Ends (·.length = symbolCounts nodes) (firstDefect? (visits nodes))
      (symbols settings nodes) := by
    rw [symbols, ← bind_pure_comp]
    refine (ends_emitNodes nodes []).map fun emitted hemitted => ?_
    rw [List.length_reverse, hemitted, List.length_nil, Nat.zero_add]
  constructor
  · simp only [hends.eq_error_iff, firstDefect?]
    rw [← Option.isSome_iff_exists, List.isSome_findSome?]
    simp
  · intro fault
    rw [hends.eq_error_iff, firstDefect?, List.findSome?_eq_some_iff]
    simp only [List.head?_eq_none_iff, and_comm]

/-- Three labels, two of them in a negated group, and only the first has a link, which joins
nothing. -/
example :
    let label (link : Option Junction) : Node := .leaf link (.label .tag ⟨none, none, false⟩)
    (visits [.group none true [label (some .or), label none], label none]).map Visit.defects =
      [[], [.missingOperation (.label .tag), .invalidValue (.label .tag) "null"],
        [.missingLink 3, .missingOperation (.label .tag), .invalidValue (.label .tag) "null"],
        [.missingLink 6, .missingOperation (.label .tag), .invalidValue (.label .tag) "null"]] :=
  rfl

end FacetFilter.Query
