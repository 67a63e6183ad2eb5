import Mathlib.Algebra.Ring.Nat
import Mathlib.Order.Bounds.Defs
import FacetFilter.Proofs.Plan.Compilation

/-!
# Chains of exclusive disjunctions

Each junction of a chain doubles what was written out before it and adds seven
instructions, so the sizes along a chain are one, nine, twenty-five and on as
`2 ^ (n + 3) - 7`.  They only grow, and the first one past the limit is named by its
place, an even one, as leaves and junctions take turns in the program.
-/

namespace FacetFilter

namespace Formula

/-- Conditions joined by exclusive disjunctions. -/
def exclusiveChain (first : Condition) (rest : List Condition) : Formula :=
  (leaf first).joinLeft .xor (rest.map leaf)

/-- The size of a written-out chain by the number of its junctions. -/
def chainSize (count : Nat) : Nat := 2 ^ (count + 3) - 7

theorem chainSize_succ (count : Nat) : chainSize (count + 1) = 2 * chainSize count + 7 := by
  have hseven : 2 ^ 3 ≤ 2 ^ (count + 3) := Nat.pow_le_pow_right (by decide) (by omega)
  calc chainSize (count + 1)
      = 2 ^ (count + 3) * 2 - 7 := by rw [chainSize, Nat.add_right_comm, Nat.pow_succ]
    _ = 2 * (2 ^ (count + 3) - 7) + 7 := by omega

theorem chainSize_mono {count more : Nat} (hle : count ≤ more) :
    chainSize count ≤ chainSize more :=
  Nat.sub_le_sub_right (Nat.pow_le_pow_right (by decide) (Nat.add_le_add_right hle 3)) 7

variable (first : Condition) (rest : List Condition)

theorem exclusiveChain_concat (last : Condition) :
    exclusiveChain first (rest ++ [last]) =
      .join .xor (exclusiveChain first rest) (.leaf last) := by
  simp [exclusiveChain, joinLeft]

theorem size_exclusiveChain : (exclusiveChain first rest).size = 2 * rest.length + 1 := by
  induction rest using List.reverseRecOn with
  | nil => rfl
  | append_singleton rest last ih =>
      rw [exclusiveChain_concat, size, ih, size, List.length_append, List.length_singleton]
      omega

/-- The size that is held against the limit at the last junction is that of the whole chain. -/
theorem projectedSize_chain (last : Condition)
    (hsize : ((exclusiveChain first rest).expanded .complement).size = chainSize rest.length) :
    ((exclusiveChain first rest).expanded .complement).projectedSize (.leaf last) =
      chainSize (rest.length + 1) := by
  rw [projectedSize, hsize, chainSize_succ, size]
  omega

theorem size_expanded_exclusiveChain :
    ((exclusiveChain first rest).expanded .complement).size = chainSize rest.length := by
  induction rest using List.reverseRecOn with
  | nil => rfl
  | append_singleton rest last ih =>
      calc ((exclusiveChain first (rest ++ [last])).expanded .complement).size
          = ((exclusiveChain first rest).expanded .complement).projectedSize (.leaf last) := by
            rw [exclusiveChain_concat, expanded, ← projectedSize_eq_size, expanded]
        _ = chainSize (rest.length + 1) := projectedSize_chain first rest last ih
        _ = chainSize (rest ++ [last]).length := by
            rw [List.length_append, List.length_singleton]

/-- The junctions are held against the limit one after the other, and the first past it counts. -/
theorem overrun?_exclusiveChain {settings : Settings}
    (hcomplement : settings.expansion = .complement) :
    (exclusiveChain first rest).overrun? settings 0 =
      ((List.range' 1 rest.length).find? fun count =>
        settings.maxInstructions < chainSize count).map (2 * ·) := by
  induction rest using List.reverseRecOn with
  | nil => rfl
  | append_singleton rest last ih =>
      have hprojected := projectedSize_chain first rest last
        (size_expanded_exclusiveChain first rest)
      rw [exclusiveChain_concat, overrun?, ih, hcomplement, expanded, hprojected, overrun?,
        Option.none_or, size_exclusiveChain, size]
      -- The scan goes one further, to the junction behind the shorter chain and one leaf.
      rw [List.length_append, List.length_singleton, List.range'_concat, List.find?_append,
        Option.map_or]
      congr 1
      rw [Nat.one_mul, Nat.add_comm 1 rest.length]
      by_cases hpast : settings.maxInstructions < chainSize (rest.length + 1)
      · simp [hpast]
        omega
      · simp [hpast]

/-- No junction is past the limit if there is none, or if the last is not. -/
theorem find?_chainSize_eq_none_iff {limit count : Nat} :
    ((List.range' 1 count).find? fun junction => limit < chainSize junction) = none ↔
      count = 0 ∨ chainSize count ≤ limit := by
  rw [List.find?_range'_eq_none]
  constructor
  · intro hall
    rcases Nat.eq_zero_or_pos count with hzero | hpositive
    · exact .inl hzero
    · have hlast := hall count hpositive (by omega)
      exact .inr (by simpa using hlast)
  · rintro (rfl | hlast) junction hfirst hlt
    · omega
    · have hle := chainSize_mono (show junction ≤ count by omega)
      simpa using hle.trans hlast

/-- What is found past the limit is the least size past it, a chain without junctions apart. -/
theorem isLeast_of_find?_chainSize {limit count found : Nat}
    (hfind : ((List.range' 1 count).find? fun junction => limit < chainSize junction) =
      some found) :
    IsLeast {junction | 1 ≤ junction ∧ limit < chainSize junction} found := by
  rw [List.find?_range'_eq_some] at hfind
  obtain ⟨hpast, hmem, hbefore⟩ := hfind
  rw [List.mem_range'_1] at hmem
  refine ⟨⟨hmem.1, by simpa using hpast⟩, fun junction hjunction => ?_⟩
  by_contra hlt
  have hwithin := hbefore junction hjunction.1 (Nat.lt_of_not_le hlt)
  exact absurd hjunction.2 (by simpa using hwithin)

end Formula

namespace Query

variable {settings : Settings}

/-- Leaves joined by exclusive disjunctions.  What links the first one to nothing is left open. -/
def exclusiveChain (link : Option Junction) (first : Leaf) (rest : List Leaf) (inverted : Bool) :
    Query where
  nodes := .leaf link first :: rest.map (.leaf (some .xor))
  inverted

/-- The expression of conditions joined by exclusive disjunctions. -/
def chainSymbols (first : Condition) (rest : List Condition) : List Symbol :=
  joinSymbols .xor [.leaf first] (rest.map fun condition => [.leaf condition])

theorem leafCount_exclusiveChain (link : Option Junction) (first : Leaf) (rest : List Leaf)
    (inverted : Bool) : (exclusiveChain link first rest inverted).leafCount ≠ 0 := by
  rw [leafCount, exclusiveChain, Node.leafCounts, Node.leafCount]
  omega

theorem derives_chainSymbols (first : Condition) (rest : List Condition) :
    Derives .expression (chainSymbols first rest) (Formula.exclusiveChain first rest) := by
  have hleaf (condition : Condition) :
      Derives (.below .xor) [.leaf condition] (.leaf condition) :=
    (Derives.leaf condition).loosen (by decide)
  have hrest : ∀ part ∈ rest.map fun condition => ([Symbol.leaf condition], Formula.leaf condition),
      Derives (.below .xor) part.1 part.2 :=
    List.forall_mem_map.mpr fun condition _ => hleaf condition
  have hchain := Derives.chain .xor (hleaf first) hrest
  rw [List.map_map, List.map_map] at hchain
  exact hchain.loosen (by decide)

/-- Valid leaves are put out behind the junctions that link them. -/
theorem exists_emitRest_chain {leaves : List Leaf}
    (hvalid : ∀ leaf ∈ leaves, ∃ condition, leafCondition settings leaf = .ok condition)
    (emitted : List Symbol) :
    ∃ conditions : List Condition, conditions.length = leaves.length ∧
      emitRest settings emitted (leaves.map (.leaf (some .xor))) =
        .ok ((conditions.flatMap fun condition =>
          [.operator (.join .xor), .leaf condition]).reverse ++ emitted) := by
  induction leaves generalizing emitted with
  | nil => exact ⟨[], rfl, rfl⟩
  | cons leaf leaves ih =>
      obtain ⟨⟨condition, hcondition⟩, hleaves⟩ := List.forall_mem_cons.mp hvalid
      obtain ⟨conditions, hlength, hemit⟩ :=
        ih hleaves (.leaf condition :: .operator (.join .xor) :: emitted)
      refine ⟨condition :: conditions, congrArg (· + 1) hlength, ?_⟩
      have hnode : emitNode settings (.operator (.join .xor) :: emitted) (.leaf (some .xor) leaf) =
          .ok (.leaf condition :: .operator (.join .xor) :: emitted) := by
        rw [emitNode, hcondition]
        rfl
      rw [List.map_cons, emitRest]
      change (emitNode settings (.operator (.join .xor) :: emitted) _ >>= _) = _
      rw [hnode]
      change emitRest settings _ _ = _
      rw [hemit]
      simp

theorem exists_symbols_exclusiveChain {first : Leaf} {rest : List Leaf}
    (hvalid : ∀ leaf ∈ first :: rest, ∃ condition, leafCondition settings leaf = .ok condition)
    (link : Option Junction) (inverted : Bool) :
    ∃ (condition : Condition) (conditions : List Condition), conditions.length = rest.length ∧
      symbols settings (exclusiveChain link first rest inverted).nodes =
        .ok (chainSymbols condition conditions) := by
  obtain ⟨⟨condition, hcondition⟩, hrest⟩ := List.forall_mem_cons.mp hvalid
  obtain ⟨conditions, hlength, hemit⟩ := exists_emitRest_chain hrest [.leaf condition]
  refine ⟨condition, conditions, hlength, ?_⟩
  have hnode : emitNode settings [] (.leaf link first) = .ok [.leaf condition] := by
    rw [emitNode, hcondition]
    rfl
  rw [symbols, exclusiveChain, emitNodes, hnode]
  change List.reverse <$> emitRest settings [.leaf condition] _ = _
  rw [hemit]
  change Except.ok _ = _
  simp [chainSymbols, joinSymbols, List.flatMap_map]

/-- A chain of `n` junctions is written out in `2 ^ (n + 3) - 7` instructions if the limit allows
for them, and a single leaf in any case.  Otherwise the first junction is named that is past the
limit, and the junction with number `k` stands at `2 * k`. -/
theorem compile_exclusiveChain (settings : Settings) (link : Option Junction) (first : Leaf)
    (rest : List Leaf) (inverted : Bool) (hcomplement : settings.expansion = .complement)
    (hvalid : ∀ leaf ∈ first :: rest, ∃ condition, leafCondition settings leaf = .ok condition) :
    (rest.length = 0 ∨ 2 ^ (rest.length + 3) - 7 ≤ settings.maxInstructions →
      ∃ plan, ((exclusiveChain link first rest inverted).compile settings).outcome.1 = .ok plan ∧
        plan.program.length = 2 ^ (rest.length + 3) - 7) ∧
    (¬(rest.length = 0 ∨ 2 ^ (rest.length + 3) - 7 ≤ settings.maxInstructions) →
      ∃ junction,
        IsLeast {junction | 1 ≤ junction ∧ settings.maxInstructions < 2 ^ (junction + 3) - 7}
          junction ∧
        ((exclusiveChain link first rest inverted).compile settings).outcome.1 =
          .error (.query (.tooLarge settings.maxInstructions (2 * junction)))) := by
  obtain ⟨condition, conditions, hlength, hsymbols⟩ :=
    exists_symbols_exclusiveChain hvalid link inverted
  have hcompile := (compile_yields (leafCount_exclusiveChain link first rest inverted) hsymbols
    (derives_chainSymbols condition conditions)).outcome
  rw [Formula.sizeFault?, Formula.overrun?_exclusiveChain _ _ hcomplement, hlength] at hcompile
  rw [hcompile]
  cases hfind : (List.range' 1 rest.length).find? fun junction =>
      settings.maxInstructions < Formula.chainSize junction with
  | none =>
      have hwithin := Formula.find?_chainSize_eq_none_iff.mp hfind
      refine ⟨fun _ => ⟨_, rfl, ?_⟩, fun hpast => absurd hwithin hpast⟩
      rw [planOf, Formula.length_program, hcomplement, Formula.size_expanded_exclusiveChain,
        hlength]
      rfl
  | some junction =>
      refine ⟨fun hwithin => ?_, fun _ => ⟨junction, ?_, rfl⟩⟩
      · rw [Formula.find?_chainSize_eq_none_iff.mpr hwithin] at hfind
        cases hfind
      · exact Formula.isLeast_of_find?_chainSize hfind

/-- Three flags with a limit of twenty-five instructions, and with one of twenty-four. -/
theorem compile_exclusiveChain_threeFlags :
    (∀ leaf ∈ [flagLeaf "fan", flagLeaf "rating", flagLeaf "stock"],
      ∃ condition, leafCondition .standard leaf = .ok condition) ∧
    (∃ plan, ((exclusiveChain none (flagLeaf "fan") [flagLeaf "rating", flagLeaf "stock"]
        false).compile ⟨.empty, .complement, 25⟩).outcome.1 = .ok plan ∧
      plan.program.length = 25) ∧
    ((exclusiveChain none (flagLeaf "fan") [flagLeaf "rating", flagLeaf "stock"] false).compile
        ⟨.empty, .complement, 24⟩).outcome.1 = .error (.query (.tooLarge 24 4)) ∧
      IsLeast {junction | 1 ≤ junction ∧ 24 < 2 ^ (junction + 3) - 7} 2 := by
  have hvalid (settings : Settings) :
      ∀ leaf ∈ [flagLeaf "fan", flagLeaf "rating", flagLeaf "stock"],
        ∃ condition, leafCondition settings leaf = .ok condition := by
    intro leaf hleaf
    simp only [List.mem_cons, List.not_mem_nil, or_false] at hleaf
    rcases hleaf with rfl | rfl | rfl <;> exact ⟨_, rfl⟩
  have hwithin := (compile_exclusiveChain ⟨.empty, .complement, 25⟩ none (flagLeaf "fan")
    [flagLeaf "rating", flagLeaf "stock"] false rfl (hvalid _)).1 (.inr (by decide))
  obtain ⟨junction, hleast, hrefused⟩ := (compile_exclusiveChain ⟨.empty, .complement, 24⟩ none
    (flagLeaf "fan") [flagLeaf "rating", flagLeaf "stock"] false rfl (hvalid _)).2 (by decide)
  have hsecond : junction = 2 := by
    have hplace : Except.error (Fault.query (.tooLarge 24 4)) =
        (Except.error (.query (.tooLarge 24 (2 * junction))) : Except Fault Plan) := hrefused
    simp only [Except.error.injEq, Fault.query.injEq, QueryFault.tooLarge.injEq] at hplace
    omega
  subst hsecond
  exact ⟨hvalid _, hwithin, hrefused, hleast⟩

end Query

end FacetFilter
