import FacetFilter.Proofs.Query.LeafDefects

/-!
# Places among symbols

Nodes are emitted behind other symbols as they are by themselves.  Only a link that
is missing is named by its place, which then counts the symbols before as well; a
defect of a leaf has no place.
-/

namespace FacetFilter

/-- The fault with its place among the symbols moved on; places among instructions stay. -/
def QueryFault.moved (offset : Nat) : QueryFault → QueryFault
  | .missingLink position => .missingLink (position + offset)
  | .structural (.emptyGroup position) => .structural (.emptyGroup (position + offset))
  | fault => fault

def Fault.moved (offset : Nat) : Fault → Fault
  | .query fault => .query (fault.moved offset)
  | fault => fault

namespace Query

variable {settings : Settings}

/-! ## Defects of leaves have no place -/

theorem moved_of_mem_defects {leaf : Leaf} {fault : QueryFault} (hdefect : fault ∈ leaf.defects)
    (offset : Nat) : fault.moved offset = fault := by
  simp only [Leaf.defects, List.mem_append, Option.mem_toList] at hdefect
  rcases hdefect with (hcolumn | hoperation) | hvalue
  · rw [Leaf.columnDefect?.eq_def] at hcolumn
    grind [QueryFault.moved]
  · rw [Leaf.operationDefect?.eq_def] at hoperation
    grind [QueryFault.moved, Leaf.nameDefect?]
  · rw [Leaf.valueDefect?.eq_def] at hvalue
    grind [QueryFault.moved]

theorem moved_of_leafCondition {leaf : Leaf} {fault : QueryFault}
    (hfault : leafCondition settings leaf = .error fault) (offset : Nat) :
    fault.moved offset = fault := by
  rw [(ends_leafCondition settings leaf).eq_error_iff] at hfault
  exact moved_of_mem_defects (List.mem_of_mem_head? hfault) offset

/-! ## Symbols behind others -/

/-- What is emitted once `before` has been, the latest symbol first. -/
def behind (before : List Symbol) :
    Except QueryFault (List Symbol) → Except QueryFault (List Symbol)
  | .ok emitted => .ok (emitted ++ before)
  | .error fault => .error (fault.moved before.length)

theorem behind_bind {before : List Symbol} {next : List Symbol → Except QueryFault (List Symbol)}
    (hnext : ∀ emitted, next (emitted ++ before) = behind before (next emitted))
    (first : Except QueryFault (List Symbol)) :
    behind before first >>= next = behind before (first >>= next) := by
  cases first with
  | ok emitted => exact hnext emitted
  | error fault => rfl

theorem emitLink_append (before emitted : List Symbol) (node : Node) :
    emitLink (emitted ++ before) node = behind before (emitLink emitted node) := by
  rw [emitLink, emitLink]
  cases node.link with
  | none => rw [List.length_append, behind, QueryFault.moved]
  | some junction => rfl

theorem opened_append (inverted : Bool) (before emitted : List Symbol) :
    opened inverted (emitted ++ before) = opened inverted emitted ++ before := by
  cases inverted <;> rfl

mutual

/-- Nodes are emitted behind other symbols as they are by themselves. -/
theorem emitNode_append (before : List Symbol) : ∀ (node : Node) (emitted : List Symbol),
    emitNode settings (emitted ++ before) node = behind before (emitNode settings emitted node)
  | .leaf link leaf, emitted => by
      rw [emitNode, emitNode]
      cases hcondition : leafCondition settings leaf with
      | ok condition => rfl
      | error fault =>
          have hmoved := moved_of_leafCondition hcondition before.length
          exact congrArg Except.error hmoved.symm
  | .group link inverted members, emitted => by
      rw [emitNode, emitNode, opened_append, emitNodes_append before members]
      exact behind_bind (fun _ => rfl) _

theorem emitNodes_append (before : List Symbol) :
    ∀ (nodes : List Node) (emitted : List Symbol),
      emitNodes settings (emitted ++ before) nodes =
        behind before (emitNodes settings emitted nodes)
  | [], emitted => rfl
  | node :: nodes, emitted => by
      rw [emitNodes, emitNodes, emitNode_append before node]
      exact behind_bind (emitRest_append before nodes) _

theorem emitRest_append (before : List Symbol) :
    ∀ (nodes : List Node) (emitted : List Symbol),
      emitRest settings (emitted ++ before) nodes =
        behind before (emitRest settings emitted nodes)
  | [], emitted => rfl
  | node :: nodes, emitted => by
      rw [emitRest, emitRest, emitLink_append before]
      apply behind_bind
      intro linked
      rw [emitNode_append before node]
      exact behind_bind (emitRest_append before nodes) _

end

end Query

end FacetFilter
