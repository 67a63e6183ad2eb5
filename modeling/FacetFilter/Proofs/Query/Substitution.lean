import FacetFilter.Plan.Compilation
import FacetFilter.Proofs.Program.Substitution

/-!
# Other leaves in the same places

Writing out a query looks at its leaves one by one.  When every leaf is changed into
one that describes a changed condition, the expression is the same one with its
conditions changed, and a defect is found at the same place.  The first link of every
list of siblings is not looked at.
-/

namespace FacetFilter

namespace Node

mutual

/-- The node with every leaf changed. -/
def mapLeaves (change : Leaf → Leaf) : Node → Node
  | .leaf link content => .leaf link (change content)
  | .group link inverted members => .group link inverted (mapAllLeaves change members)

def mapAllLeaves (change : Leaf → Leaf) : List Node → List Node
  | [] => []
  | node :: nodes => mapLeaves change node :: mapAllLeaves change nodes

end

/-- The node without the link to the one before it. -/
def unlinked : Node → Node
  | .leaf _ content => .leaf none content
  | .group _ inverted members => .group none inverted members

mutual

/-- The node without the first link of any list of siblings within it. -/
def unlinkFirst : Node → Node
  | .leaf link content => .leaf link content
  | .group link inverted members => .group link inverted (unlinkAllFirst members)

/-- Siblings without their first link, and so within each of them. -/
def unlinkAllFirst : List Node → List Node
  | [] => []
  | node :: nodes => (unlinkFirst node).unlinked :: unlinkRest nodes

def unlinkRest : List Node → List Node
  | [] => []
  | node :: nodes => unlinkFirst node :: unlinkRest nodes

end

/-! ## What stays as it was -/

theorem link_mapLeaves (change : Leaf → Leaf) (node : Node) :
    (mapLeaves change node).link = node.link := by
  cases node <;> rfl

theorem link_unlinkFirst (node : Node) : (unlinkFirst node).link = node.link := by
  cases node <;> rfl

theorem length_mapAllLeaves (change : Leaf → Leaf) (nodes : List Node) :
    (mapAllLeaves change nodes).length = nodes.length := by
  induction nodes with
  | nil => rfl
  | cons node nodes ih => rw [mapAllLeaves, List.length_cons, List.length_cons, ih]

theorem length_unlinkRest (nodes : List Node) : (unlinkRest nodes).length = nodes.length := by
  induction nodes with
  | nil => rfl
  | cons node nodes ih => rw [unlinkRest, List.length_cons, List.length_cons, ih]

theorem length_unlinkAllFirst (nodes : List Node) :
    (unlinkAllFirst nodes).length = nodes.length := by
  cases nodes with
  | nil => rfl
  | cons node nodes => exact congrArg (· + 1) (length_unlinkRest nodes)

mutual

theorem leafCount_mapLeaves (change : Leaf → Leaf) :
    ∀ node : Node, (mapLeaves change node).leafCount = node.leafCount
  | .leaf _ _ => rfl
  | .group _ _ members => leafCounts_mapAllLeaves change members

theorem leafCounts_mapAllLeaves (change : Leaf → Leaf) :
    ∀ nodes : List Node, leafCounts (mapAllLeaves change nodes) = leafCounts nodes
  | [] => rfl
  | node :: nodes => by
      rw [mapAllLeaves, leafCounts, leafCounts, leafCount_mapLeaves change node,
        leafCounts_mapAllLeaves change nodes]

end

theorem leafCount_unlinked (node : Node) : node.unlinked.leafCount = node.leafCount := by
  cases node <;> rfl

mutual

theorem leafCount_unlinkFirst : ∀ node : Node, (unlinkFirst node).leafCount = node.leafCount
  | .leaf _ _ => rfl
  | .group _ _ members => leafCounts_unlinkAllFirst members

theorem leafCounts_unlinkAllFirst :
    ∀ nodes : List Node, leafCounts (unlinkAllFirst nodes) = leafCounts nodes
  | [] => rfl
  | node :: nodes => by
      rw [unlinkAllFirst, leafCounts, leafCounts, leafCount_unlinked, leafCount_unlinkFirst node,
        leafCounts_unlinkRest nodes]

theorem leafCounts_unlinkRest :
    ∀ nodes : List Node, leafCounts (unlinkRest nodes) = leafCounts nodes
  | [] => rfl
  | node :: nodes => by
      rw [unlinkRest, leafCounts, leafCounts, leafCount_unlinkFirst node,
        leafCounts_unlinkRest nodes]

end

mutual

theorem mapLeaves_id : ∀ node : Node, mapLeaves id node = node
  | .leaf _ _ => rfl
  | .group _ _ members => by rw [mapLeaves, mapAllLeaves_id members]

theorem mapAllLeaves_id : ∀ nodes : List Node, mapAllLeaves id nodes = nodes
  | [] => rfl
  | node :: nodes => by rw [mapAllLeaves, mapLeaves_id node, mapAllLeaves_id nodes]

end

end Node

namespace Query

open Node

/-! ## The expression of changed leaves -/

section Leaves

variable {settings other : Settings} {exchange : Leaf → Leaf} {change : Condition → Condition}

theorem emitLink_mapLeaves (node : Node) (emitted : List Symbol) :
    emitLink (emitted.map (Symbol.substitute change)) (mapLeaves exchange node) =
      List.map (Symbol.substitute change) <$> emitLink emitted node := by
  rw [emitLink, emitLink, link_mapLeaves, List.length_map]
  cases node.link <;> rfl

theorem opened_substitute (inverted : Bool) (emitted : List Symbol) :
    opened inverted (emitted.map (Symbol.substitute change)) =
      (opened inverted emitted).map (Symbol.substitute change) := by
  cases inverted <;> rfl

/-- Each changed leaf describes the changed condition of the leaf, or has the same defect. -/
def Describes (settings other : Settings) (exchange : Leaf → Leaf)
    (change : Condition → Condition) : Prop :=
  ∀ leaf, leafCondition other (exchange leaf) = change <$> leafCondition settings leaf

mutual

theorem emitNode_mapLeaves (hdescribes : Describes settings other exchange change) :
    ∀ (node : Node) (emitted : List Symbol),
      emitNode other (emitted.map (Symbol.substitute change)) (mapLeaves exchange node) =
        List.map (Symbol.substitute change) <$> emitNode settings emitted node
  | .leaf link content, emitted => by
      rw [mapLeaves, emitNode, emitNode, hdescribes]
      cases leafCondition settings content <;> rfl
  | .group link inverted members, emitted => by
      have hmembers := emitNodes_mapAllLeaves hdescribes members (opened inverted emitted)
      rw [mapLeaves, emitNode, emitNode, opened_substitute, hmembers]
      cases emitNodes settings (opened inverted emitted) members <;> rfl

theorem emitNodes_mapAllLeaves (hdescribes : Describes settings other exchange change) :
    ∀ (nodes : List Node) (emitted : List Symbol),
      emitNodes other (emitted.map (Symbol.substitute change)) (mapAllLeaves exchange nodes) =
        List.map (Symbol.substitute change) <$> emitNodes settings emitted nodes
  | [], emitted => rfl
  | node :: nodes, emitted => by
      rw [mapAllLeaves, emitNodes, emitNodes, emitNode_mapLeaves hdescribes node emitted]
      cases emitNode settings emitted node with
      | error fault => rfl
      | ok emitted => exact emitRest_mapAllLeaves hdescribes nodes emitted

theorem emitRest_mapAllLeaves (hdescribes : Describes settings other exchange change) :
    ∀ (nodes : List Node) (emitted : List Symbol),
      emitRest other (emitted.map (Symbol.substitute change)) (mapAllLeaves exchange nodes) =
        List.map (Symbol.substitute change) <$> emitRest settings emitted nodes
  | [], emitted => rfl
  | node :: nodes, emitted => by
      rw [mapAllLeaves, emitRest, emitRest, emitLink_mapLeaves]
      cases emitLink emitted node with
      | error fault => rfl
      | ok linked =>
          change (emitNode other (linked.map (Symbol.substitute _)) (mapLeaves _ node) >>= _) = _
          rw [emitNode_mapLeaves hdescribes node linked]
          change _ = List.map _ <$> (emitNode settings linked node >>= _)
          cases emitNode settings linked node with
          | error fault => rfl
          | ok emitted => exact emitRest_mapAllLeaves hdescribes nodes emitted

end

theorem symbols_mapAllLeaves (hdescribes : Describes settings other exchange change)
    (nodes : List Node) :
    symbols other (mapAllLeaves exchange nodes) =
      List.map (Symbol.substitute change) <$> symbols settings nodes := by
  have hemit := emitNodes_mapAllLeaves hdescribes nodes []
  rw [List.map_nil] at hemit
  rw [symbols, symbols, hemit]
  cases emitNodes settings [] nodes with
  | error fault => rfl
  | ok emitted => exact congrArg Except.ok List.map_reverse.symm

/-- Of the settings, the expression depends on the names that stand for columns alone. -/
theorem symbols_eq_of_aliases (haliases : other.aliases = settings.aliases) (nodes : List Node) :
    symbols other nodes = symbols settings nodes := by
  have hdescribes : Describes settings other id id := by
    obtain ⟨aliases, expansion, limit⟩ := settings
    obtain ⟨_, otherExpansion, otherLimit⟩ := other
    cases haliases
    intro leaf
    rw [id_map]
    cases leaf <;> rfl
  have hsymbols := symbols_mapAllLeaves hdescribes nodes
  rwa [Node.mapAllLeaves_id, Symbol.substitute_id, List.map_id_fun, id_map] at hsymbols

end Leaves

/-! ## The first link -/

section Links

variable (settings : Settings)

theorem emitNode_unlinked (node : Node) (emitted : List Symbol) :
    emitNode settings emitted node.unlinked = emitNode settings emitted node := by
  cases node <;> rw [unlinked, emitNode, emitNode]

mutual

theorem emitNode_unlinkFirst : ∀ (node : Node) (emitted : List Symbol),
    emitNode settings emitted (unlinkFirst node) = emitNode settings emitted node
  | .leaf _ _, _ => rfl
  | .group _ inverted members, emitted => by
      rw [unlinkFirst, emitNode, emitNode,
        emitNodes_unlinkAllFirst members (opened inverted emitted)]

theorem emitNodes_unlinkAllFirst : ∀ (nodes : List Node) (emitted : List Symbol),
    emitNodes settings emitted (unlinkAllFirst nodes) = emitNodes settings emitted nodes
  | [], _ => rfl
  | node :: nodes, emitted => by
      rw [unlinkAllFirst, emitNodes, emitNodes, emitNode_unlinked,
        emitNode_unlinkFirst node emitted]
      cases emitNode settings emitted node with
      | error fault => rfl
      | ok emitted => exact emitRest_unlinkRest nodes emitted

theorem emitRest_unlinkRest : ∀ (nodes : List Node) (emitted : List Symbol),
    emitRest settings emitted (unlinkRest nodes) = emitRest settings emitted nodes
  | [], _ => rfl
  | node :: nodes, emitted => by
      rw [unlinkRest, emitRest, emitRest, emitLink, emitLink, link_unlinkFirst]
      cases node.link with
      | none => rfl
      | some junction =>
          change (emitNode settings (.operator (.join junction) :: emitted) (unlinkFirst node)
            >>= _) = (emitNode settings (.operator (.join junction) :: emitted) node >>= _)
          rw [emitNode_unlinkFirst node _]
          cases emitNode settings (.operator (.join junction) :: emitted) node with
          | error fault => rfl
          | ok emitted => exact emitRest_unlinkRest nodes emitted

end

theorem symbols_unlinkAllFirst (nodes : List Node) :
    symbols settings (unlinkAllFirst nodes) = symbols settings nodes := by
  rw [symbols, symbols, emitNodes_unlinkAllFirst]

end Links

/-! ## The plan of changed leaves -/

section Compilation

variable {settings : Settings} {change : Condition → Condition}

theorem build_substitute (hrender : ∀ condition, (change condition).render = condition.render)
    (emitted : List Symbol) :
    Program.build (emitted.map (Symbol.substitute change)) =
      Program.substitute change <$> Program.build emitted := by
  rw [Program.build, Program.build, Program.ofSymbols_substitute hrender, List.length_map]
  cases Program.ofSymbols emitted with
  | error fault => rfl
  | ok program =>
      have hlength : (program.substitute change).length = program.length := List.length_map _
      change (Journaled.tell (.programBuilt _ (program.substitute change).length) >>= fun _ => _) =
        Program.substitute change <$> (Journaled.tell _ >>= fun _ => pure program)
      rw [hlength, map_bind]
      rfl

theorem emit_substitute {nodes others : List Node}
    (hsymbols : symbols settings others =
      List.map (Symbol.substitute change) <$> symbols settings nodes)
    (hlength : others.length = nodes.length) :
    emit settings others = List.map (Symbol.substitute change) <$> emit settings nodes := by
  rw [emit, emit, hsymbols, hlength]
  cases symbols settings nodes with
  | error fault => rfl
  | ok emitted =>
      change (Journaled.tell (.symbolsEmitted _ (emitted.map _).length) >>= fun _ => _) =
        List.map _ <$> (Journaled.tell _ >>= fun _ => pure emitted)
      rw [List.length_map, map_bind]
      rfl

/-- A query whose expression differs in its conditions alone has the plan with these changed. -/
theorem compile_substitute {first second : Query}
    (hrender : ∀ condition, (change condition).render = condition.render)
    (hflip : ∀ condition, (change condition).flip = change condition.flip)
    (hsymbols : symbols settings second.nodes =
      List.map (Symbol.substitute change) <$> symbols settings first.nodes)
    (hleaves : second.leafCount = first.leafCount)
    (hlength : second.nodes.length = first.nodes.length)
    (hinverted : second.inverted = first.inverted) :
    second.compile settings = Plan.substitute change <$> first.compile settings := by
  rw [compile, compile, hleaves, hinverted]
  split
  · rfl
  · rw [emit_substitute hsymbols hlength, bind_map_left, map_bind]
    congr 1
    funext emitted
    rw [build_substitute hrender, bind_map_left, map_bind]
    congr 1
    funext built
    rw [Program.expand_substitute hflip, bind_map_left, map_bind]
    congr 1
    funext program
    rw [map_bind, List.length_map, Program.substitute, List.length_map]
    rfl

end Compilation

end Query

end FacetFilter
