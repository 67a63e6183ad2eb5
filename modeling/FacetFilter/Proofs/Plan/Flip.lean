import FacetFilter.Proofs.Condition.Flip
import FacetFilter.Proofs.Decimal.Rounding
import FacetFilter.Proofs.Plan.Locality
import FacetFilter.Proofs.Query.Substitution

/-!
# Plans that flip leaves

Where exclusive disjunctions are written out by flipping leaves, a query has a plan
whenever it has one by complements, of the same columns and no longer.  The two
plans are different programs; they select the same entities in every catalog whose
fields hold what the leaves test.
-/

namespace FacetFilter

open Journaled

namespace Query

variable {settings : Settings} {query : Query} {plan : Plan} {catalog : Catalog}

/-- Every leaf reads a column of the catalog, and each value in it is of the kind that the leaf
tests.  A label leaf reads no column. -/
def Fits (settings : Settings) (query : Query) (catalog : Catalog) : Prop :=
  ∀ leaf ∈ allLeavesOf query.nodes, ∃ column, leafColumn? settings leaf = some column ∧
    catalog.hasColumn column = true ∧ ∀ record ∈ catalog.records, leaf.Fits (record.value column)

theorem Fits.hasColumn (hfits : query.Fits settings catalog) :
    ∀ column ∈ query.leafColumns settings, catalog.hasColumn column = true := by
  intro column hmem
  obtain ⟨leaf, hleaf, hcolumn⟩ := List.mem_filterMap.mp hmem
  obtain ⟨other, hother, hhas, -⟩ := hfits leaf hleaf
  rw [hother] at hcolumn
  cases hcolumn
  exact hhas

/-- Flipping negates each condition of a query that fits the catalog. -/
theorem Fits.flipsIn {emitted : List Symbol} {formula : Formula}
    (hfits : query.Fits settings catalog) (hsymbols : symbols settings query.nodes = .ok emitted)
    (hderives : Derives .expression emitted formula) {condition : Condition}
    (hmem : .leaf condition ∈ formula.program) : condition.FlipsIn catalog := by
  have hconditions := conditions_program hsymbols hderives
  have hcondition : Except.ok condition ∈
      (allLeavesOf query.nodes).map (leafCondition settings) := by
    rw [hconditions]
    exact List.mem_map_of_mem (List.mem_filterMap.mpr ⟨_, hmem, rfl⟩)
  obtain ⟨leaf, hleaf, hdescribed⟩ := List.mem_map.mp hcondition
  obtain ⟨column, hcolumn, hhas, hvalues⟩ := hfits leaf hleaf
  apply Condition.flipsIn_of_accepts
  · rw [Condition.isKnown_of_column (column?_of_leafCondition hdescribed ▸ hcolumn)]
    exact hhas
  · intro record hrecord
    exact accepts_flip_of_fits hdescribed hcolumn (hvalues record hrecord)

theorem exists_execute_of_columns (hcompile : (query.compile settings).outcome.1 = .ok plan)
    (hcolumns : ∀ column ∈ query.leafColumns settings, catalog.hasColumn column = true) :
    ∃ members, (plan.execute catalog).outcome.1 = .ok members := by
  rcases execute_outcome_of_compile hcompile catalog with
    ⟨members, hexecute, -⟩ | ⟨column, -, hleast⟩
  · exact ⟨members, hexecute⟩
  · have hmissing := hleast.missing
    rw [hcolumns column hleast.mem] at hmissing
    cases hmissing

/-- The plan of a formula does not depend on the expansion where flipping negates. -/
theorem execute_planOf_of_flips {formula : Formula} {members others : IdSet} {other : Settings}
    (hflips : ∀ condition, .leaf condition ∈ formula.program → condition.FlipsIn catalog)
    (hfirst : ((planOf settings query formula).execute catalog).outcome.1 = .ok members)
    (hsecond : ((planOf other query formula).execute catalog).outcome.1 = .ok others) :
    members = others := by
  have hselected : ∀ expansion, (((formula.expanded expansion).negatedIf query.inverted).selected
      catalog) = (formula.negatedIf query.inverted).selected catalog := by
    intro expansion
    have hexpanded := formula.selected_expanded_of_flips expansion fun _ => hflips
    cases query.inverted with
    | false => exact hexpanded
    | true => exact congrArg (IdSet.complement · catalog.ids) hexpanded
  rw [Plan.eq_selected_of_execute (formula.xorFree_expanded _) hfirst,
    Plan.eq_selected_of_execute (formula.xorFree_expanded _) hsecond, hselected, hselected]

/-- What compiles by complements compiles by flipping leaves, to a plan of the same columns that
is no longer; in every catalog that the query fits, both plans select the same entities. -/
theorem exists_flipped_of_compile (settings : Settings) (query : Query) (plan : Plan)
    (hcomplement : settings.expansion = .complement)
    (hcompile : (query.compile settings).outcome.1 = .ok plan) :
    ∃ flipped,
      (query.compile { settings with expansion := .flipLeaves }).outcome.1 = .ok flipped ∧
        flipped.program.length ≤ plan.program.length ∧ flipped.columns = plan.columns ∧
          ∀ catalog, query.Fits settings catalog →
            ∃ members : IdSet, (plan.execute catalog).outcome.1 = .ok members ∧
              (flipped.execute catalog).outcome.1 = .ok members := by
  by_cases hleaves : query.leafCount = 0
  · rw [eq_everything_of_compile hleaves hcompile]
    refine ⟨.everything, (compile_yields_everything _ hleaves).outcome, Nat.le_refl 0, rfl, ?_⟩
    intro catalog _
    exact ⟨catalog.ids, rfl, rfl⟩
  · obtain ⟨emitted, formula, hsymbols, hderives, -⟩ := exists_formula_of_compile hleaves hcompile
    obtain ⟨hsize, rfl⟩ := eq_planOf_of_compile hleaves hsymbols hderives hcompile
    have hflippedSymbols :
        symbols { settings with expansion := .flipLeaves } query.nodes = .ok emitted := by
      refine (symbols_eq_of_aliases ?_ query.nodes).trans hsymbols
      rfl
    have hflippedSize : formula.sizeFault? { settings with expansion := .flipLeaves } 0 = none := by
      rw [Formula.sizeFault?, Formula.overrun?_eq_none_of_complement .flipLeaves hcomplement
        (Option.map_eq_none_iff.mp hsize)]
      rfl
    have hflipped := (compile_yields hleaves hflippedSymbols hderives).outcome
    rw [hflippedSize] at hflipped
    refine ⟨_, hflipped, ?_, ?_, ?_⟩
    · rw [planOf, planOf, Formula.length_program, Formula.length_program, hcomplement]
      exact formula.size_expanded_le_complement .flipLeaves
    · apply Ascending.ext_of_mem
      intro column
      rw [Plan.mem_columns_iff, Plan.mem_columns_iff, planOf, planOf,
        Formula.mem_reads_expanded, Formula.mem_reads_expanded]
    · intro catalog hfits
      obtain ⟨members, hexecute⟩ := exists_execute_of_columns hcompile hfits.hasColumn
      obtain ⟨others, hothers⟩ := exists_execute_of_columns hflipped hfits.hasColumn
      have hsame := execute_planOf_of_flips (fun condition hmem =>
        hfits.flipsIn hsymbols hderives hmem) hexecute hothers
      exact ⟨members, hexecute, hsame ▸ hothers⟩

/-- All but what has one or all three of a fan, a score that is not below zero, and a name that does
not begin with an `a`. -/
def fanXorScoreXorName : Query where
  nodes := [.leaf none (flagLeaf "fan"),
    .group (some .xor) true [.leaf none (.number ⟨some "score", some "<",
      some (.number (.finite false 0 representable_zero)), false, true, false⟩)],
    .leaf (some .xor) (.text ⟨some "name", some "startswith", some (.text "a"), true, true, true⟩)]
  inverted := true

/-- Two entities, one of which has a truth value for a name. -/
def namedFans : Catalog :=
  (Catalog.empty.add ⟨7, ((Ascending.empty.insert ("fan", .bool true)).insert
    ("score", .number (.finite true 1 representable_one))).insert ("name", .text "ant"), [], []⟩).add
    ⟨8, ((Ascending.empty.insert ("fan", .bool false)).insert
      ("score", .number (.finite true 0 representable_zero))).insert ("name", .bool true), [], []⟩

theorem fits_namedFans : fanXorScoreXorName.Fits .standard namedFans := by
  have hfields : ∀ record ∈ namedFans.records, (∃ fan, record.value "fan" = .bool fan) ∧
      (∃ score, record.value "score" = .number score ∧ score ≠ .nan) ∧
        record.value "name" ≠ .null := by
    intro record hrecord
    rcases Ascending.mem_insert.mp hrecord with rfl | ⟨hrecord, -⟩
    · exact ⟨⟨_, rfl⟩, ⟨_, rfl, by decide⟩, by decide⟩
    · rcases Ascending.mem_insert.mp hrecord with rfl | ⟨hrecord, -⟩
      · exact ⟨⟨_, rfl⟩, ⟨_, rfl, by decide⟩, by decide⟩
      · exact absurd hrecord (Ascending.not_mem_empty _)
  intro leaf hleaf
  simp only [fanXorScoreXorName, allLeavesOf, leavesOf, List.cons_append, List.nil_append,
    List.append_nil, List.mem_cons, List.not_mem_nil, or_false] at hleaf
  rcases hleaf with rfl | rfl | rfl
  · refine ⟨"fan", rfl, rfl, fun record hrecord => ?_⟩
    obtain ⟨fan, hfan⟩ := (hfields record hrecord).1
    rw [hfan]
    exact .flag
  · refine ⟨"score", rfl, rfl, fun record hrecord => ?_⟩
    obtain ⟨score, hscore, hordered⟩ := (hfields record hrecord).2.1
    rw [hscore]
    exact .number rfl rfl nofun hordered
  · exact ⟨"name", rfl, rfl, fun record hrecord => .text (hfields record hrecord).2.2⟩

/-- The two programs are of different lengths, and select one entity of the two. -/
theorem exists_flipped_of_compile_fanXorScoreXorName :
    fanXorScoreXorName.Fits .standard namedFans ∧
      ∃ plan flipped, (fanXorScoreXorName.compile .standard).outcome.1 = .ok plan ∧
        (fanXorScoreXorName.compile { Settings.standard with expansion := .flipLeaves }).outcome.1 =
          .ok flipped ∧ flipped.program.length < plan.program.length ∧
            flipped.columns = plan.columns ∧
              ∃ members : IdSet, (plan.execute namedFans).outcome.1 = .ok members ∧
                (flipped.execute namedFans).outcome.1 = .ok members ∧ members.toList = [8] := by
  obtain ⟨flipped, hflipped, -, hcolumns, hexecute⟩ :=
    exists_flipped_of_compile .standard fanXorScoreXorName _ rfl rfl
  obtain ⟨members, hmembers, hothers⟩ := hexecute namedFans fits_namedFans
  cases hflipped
  refine ⟨fits_namedFans, _, _, rfl, rfl, by decide, hcolumns, members, hmembers, hothers, ?_⟩
  cases hmembers
  rfl

end Query

end FacetFilter
