import FacetFilter.Proofs.Query.Expression

/-!
# Counting the exclusive disjunctions of a query

A query says in its links how often it joins exclusively, the link of the first of
some siblings left out.  Its expression and its program say so again: no stage
before the writing out drops or repeats a junction or a condition.
-/

namespace FacetFilter

def Symbol.isXor : Symbol → Bool
  | .operator (.join .xor) => true
  | _ => false

/-- The program of an expression has as many exclusive disjunctions as the expression. -/
theorem Derives.countP_isXor {phrase : Phrase} {symbols : List Symbol} {formula : Formula}
    (hderives : Derives phrase symbols formula) :
    formula.program.countP Instruction.isXor = symbols.countP Symbol.isXor := by
  rw [hderives.perm_instructions.countP_eq, List.countP_filterMap]
  apply List.countP_congr
  rintro (condition | (_ | (_ | _ | _)) | _ | _) - <;> rfl

namespace Query

mutual

/-- The exclusive disjunctions among the siblings within a node. -/
def exclusions : Node → Nat
  | .leaf _ _ => 0
  | .group _ _ members => exclusionsAmong members

/-- The exclusive disjunctions among siblings and within them; the first link joins nothing. -/
def exclusionsAmong : List Node → Nat
  | [] => 0
  | node :: nodes => exclusions node + exclusionsBehind nodes

/-- The exclusive disjunctions that join nodes to what is before them, and those within. -/
def exclusionsBehind : List Node → Nat
  | [] => 0
  | node :: nodes =>
      (if node.link = some .xor then 1 else 0) + exclusions node + exclusionsBehind nodes

end

theorem countP_linkSymbols (link : Option Junction) :
    (linkSymbols link).countP Symbol.isXor = if link = some .xor then 1 else 0 := by
  rcases link with _ | (_ | _ | _) <;> rfl

mutual

theorem Written.countP_isXor {settings : Settings} {node : Node} {text : List Symbol}
    (hwritten : Written settings node text) : text.countP Symbol.isXor = exclusions node := by
  cases hwritten with
  | leaf hcondition => rfl
  | @group link inverted members parts hmembers hlinks =>
      have htext : List.countP Symbol.isXor
          (negationIf inverted ++ .opening :: (joined parts ++ [.closing])) =
            (joined parts).countP Symbol.isXor := by
        cases inverted <;> simp [negationIf, Symbol.isXor]
      rw [htext, exclusions, hmembers.countP_isXor.1]

theorem WrittenAll.countP_isXor {settings : Settings} {nodes : List Node}
    {parts : List (Option Junction × List Symbol)} (hwritten : WrittenAll settings nodes parts) :
    (joined parts).countP Symbol.isXor = exclusionsAmong nodes ∧
      (parts.flatMap fun part => linkSymbols part.1 ++ part.2).countP Symbol.isXor =
        exclusionsBehind nodes := by
  cases hwritten with
  | nil => exact ⟨rfl, rfl⟩
  | cons hnode hnodes =>
      have hfirst := hnode.countP_isXor
      have hrest := hnodes.countP_isXor.2
      constructor
      · rw [joined, List.countP_append, hfirst, hrest, exclusionsAmong]
      · rw [List.flatMap_cons, List.countP_append, List.countP_append, countP_linkSymbols,
          hfirst, hrest, exclusionsBehind]

end

variable {settings : Settings} {query : Query} {emitted : List Symbol} {formula : Formula}

theorem countP_isXor_program (hsymbols : symbols settings query.nodes = .ok emitted)
    (hderives : Derives .expression emitted formula) :
    formula.program.countP Instruction.isXor = exclusionsAmong query.nodes := by
  obtain ⟨parts, rfl, hwritten, -⟩ := writtenAll_of_symbols hsymbols
  rw [hderives.countP_isXor, hwritten.countP_isXor.1]

theorem leafCount_eq_length_conditions (hsymbols : symbols settings query.nodes = .ok emitted)
    (hderives : Derives .expression emitted formula) :
    query.leafCount = (formula.program.filterMap Instruction.condition?).length := by
  have hlengths := congrArg List.length (conditions_program hsymbols hderives)
  rw [List.length_map, List.length_map] at hlengths
  rw [leafCount, leafCounts_eq_length, hlengths]

end Query

end FacetFilter
