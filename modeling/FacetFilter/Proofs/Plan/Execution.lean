import FacetFilter.Proofs.Plan.Compilation
import FacetFilter.Proofs.Text.ByteOrder

/-!
# Executing compiled plans

A compiled plan keeps its stack in order in every catalog: it selects entities of
the catalog where each column of its leaves is there, and names the least missing
one where not.  With complements for exclusive disjunctions it selects the meaning
of its query.
-/

namespace FacetFilter

open Journaled

/-! ## Missing columns -/

/-- The column comes first, in the order of bytes, of those that the catalog does not have. -/
structure Catalog.LeastMissing (catalog : Catalog) (columns : List String) (column : String) :
    Prop where
  mem : column ∈ columns
  missing : catalog.hasColumn column = false
  least : ∀ other ∈ columns, catalog.hasColumn other = false → other ≠ column →
    Text.bytes column < Text.bytes other

theorem Plan.leastMissing_of_missingColumn? {plan : Plan} {catalog : Catalog}
    {columns : List String} {column : String}
    (hreads : ∀ column, column ∈ plan.program.reads ↔ column ∈ columns)
    (hmissing : plan.missingColumn? catalog = some column) :
    catalog.LeastMissing columns column := by
  obtain ⟨hmem, htest, hleast⟩ := Ascending.least_of_find? hmissing
  refine ⟨(hreads column).mp (mem_columns_iff.mp hmem), by simpa using htest, ?_⟩
  intro other hother hnone hne
  have hcolumn := mem_columns_iff.mpr ((hreads other).mpr hother)
  rcases hleast other hcolumn (by simpa using hnone) with heq | hcompare
  · exact absurd heq.symm hne
  · exact Text.bytes_lt_bytes hcompare

namespace Query

variable {settings : Settings} {query : Query} {plan : Plan}

/-! ## What a compiled plan is -/

theorem selectsAll_of_compile (hcompile : (query.compile settings).outcome.1 = .ok plan) :
    plan.selectsAll = true ↔ query.leafCount = 0 := by
  by_cases hleaves : query.leafCount = 0
  · rw [eq_everything_of_compile hleaves hcompile]
    exact ⟨fun _ => hleaves, fun _ => rfl⟩
  · obtain ⟨emitted, formula, -, -, rfl, -⟩ := exists_formula_of_compile hleaves hcompile
    have hne := (formula.expanded settings.expansion).program_ne_nil
    rw [Plan.selectsAll, List.isEmpty_iff]
    exact ⟨fun hempty => absurd hempty hne, fun hzero => absurd hzero hleaves⟩

/-- A plan reads the columns of the leaves, whatever the order of its program. -/
theorem mem_reads_of_compile (hcompile : (query.compile settings).outcome.1 = .ok plan)
    (column : String) :
    column ∈ plan.program.reads ↔ column ∈ query.leafColumns settings := by
  by_cases hleaves : query.leafCount = 0
  · rw [eq_everything_of_compile hleaves hcompile,
      leafColumns_of_leafCount_eq_zero settings hleaves]
    rfl
  · obtain ⟨emitted, formula, hsymbols, hderives, rfl, -⟩ :=
      exists_formula_of_compile hleaves hcompile
    rw [← reads_program hsymbols hderives]
    exact Formula.mem_reads_expanded settings.expansion formula column

/-- Executing a plan selects entities of the catalog, unless a column that it reads is missing. -/
theorem execute_yields_of_compile (hcompile : (query.compile settings).outcome.1 = .ok plan)
    (catalog : Catalog) :
    ∃ members : IdSet, (∀ id ∈ members, id ∈ catalog.ids) ∧
      Yields (plan.execute catalog) (settle (plan.columnFault? catalog) members) := by
  by_cases hleaves : query.leafCount = 0
  · rw [eq_everything_of_compile hleaves hcompile]
    exact ⟨catalog.ids, fun _ hmem => hmem,
      (Plan.validate_yields .everything catalog).bind_settle (yields_pure catalog.ids)⟩
  · obtain ⟨emitted, formula, -, -, rfl, -⟩ := exists_formula_of_compile hleaves hcompile
    exact ⟨_, Formula.selected_subset _ catalog,
      Plan.execute_yields _ query.inverted catalog (formula.xorFree_expanded _)⟩

/-- Either every column of the leaves is there, and the plan selects entities of the catalog, or
the least missing one is named. -/
theorem execute_outcome_of_compile (hcompile : (query.compile settings).outcome.1 = .ok plan)
    (catalog : Catalog) :
    (∃ members : IdSet, (plan.execute catalog).outcome.1 = .ok members ∧
        (∀ id ∈ members, id ∈ catalog.ids) ∧
          ∀ column ∈ query.leafColumns settings, catalog.hasColumn column = true) ∨
      ∃ column, (plan.execute catalog).outcome.1 = .error (.name (.unknownColumn column)) ∧
        catalog.LeastMissing (query.leafColumns settings) column := by
  have hreads := mem_reads_of_compile hcompile
  obtain ⟨members, hsubset, hyields⟩ := execute_yields_of_compile hcompile catalog
  rw [hyields.outcome, Plan.columnFault?]
  cases hmissing : plan.missingColumn? catalog with
  | none =>
      refine .inl ⟨members, rfl, hsubset, ?_⟩
      intro column hcolumn
      apply Plan.missingColumn?_eq_none_iff.mp hmissing
      exact (hreads column).mpr hcolumn
  | some column => exact .inr ⟨column, rfl, Plan.leastMissing_of_missingColumn? hreads hmissing⟩

/-- Executing a compiled plan never finds the stack in disorder.  It selects entities of the
catalog exactly where every column of the leaves is there, and names the least missing one
where not; only the plan of a query without leaves selects everything. -/
theorem execute_of_compile (settings : Settings) (query : Query) (plan : Plan)
    (hcompile : (query.compile settings).outcome.1 = .ok plan) :
    (plan.selectsAll = true ↔ query.leafCount = 0) ∧
      ∀ catalog : Catalog,
        (∀ fault, (plan.execute catalog).outcome.1 ≠ .error (.machine fault)) ∧
          ((∃ members : IdSet, (plan.execute catalog).outcome.1 = .ok members ∧
              ∀ id ∈ members, id ∈ catalog.ids) ↔
            ∀ column ∈ query.leafColumns settings, catalog.hasColumn column = true) ∧
          ((∃ column ∈ query.leafColumns settings, catalog.hasColumn column = false) →
            ∃ column, (plan.execute catalog).outcome.1 = .error (.name (.unknownColumn column)) ∧
              catalog.LeastMissing (query.leafColumns settings) column) := by
  refine ⟨selectsAll_of_compile hcompile, ?_⟩
  intro catalog
  rcases execute_outcome_of_compile hcompile catalog with
    ⟨members, hresult, hsubset, hall⟩ | ⟨column, hresult, hleast⟩
  · refine ⟨by simp [hresult], ⟨fun _ => hall, fun _ => ⟨members, hresult, hsubset⟩⟩, ?_⟩
    rintro ⟨column, hcolumn, hnone⟩
    rw [hall column hcolumn] at hnone
    cases hnone
  · refine ⟨by simp [hresult], ⟨by simp [hresult], ?_⟩, fun _ => ⟨column, hresult, hleast⟩⟩
    intro hall
    have hnone := hleast.missing
    rw [hall column hleast.mem] at hnone
    cases hnone

/-- All but what has a score, or neither a fan nor a tag that nothing carries, and not both. -/
def scoreOrNoFan : Query where
  nodes := [.leaf none (flagLeaf "score"),
    .group (some .xor) true
      [.leaf none (flagLeaf "fan"),
        .leaf (some .or) (.label .tag ⟨some "has", some (.text "gone"), false⟩)]]
  inverted := true

/-- Settings in which a score is a rating. -/
def scoreSettings (expansion : Expansion) : Settings :=
  { Settings.standard.addAlias "score" "rating" with expansion }

/-- One entity with a fan, one with a rating and one with neither. -/
def ratingsAndFans : Catalog :=
  ((Catalog.empty.add ⟨7, Ascending.empty.insert ("fan", .bool true), [], []⟩).add
    ⟨8, Ascending.empty.insert ("rating", .bool true), ["new"], []⟩).add ⟨9, .empty, [], []⟩

/-- The column that is missing comes first by its name and last in the query.  Where none is
missing, the flipped leaf passes over an entity without a score, so neither half of the
written-out disjunction selects any and the inverted query selects them all. -/
theorem execute_of_compile_scoreOrNoFan :
    ∃ plan, (scoreOrNoFan.compile (scoreSettings .flipLeaves)).outcome.1 = .ok plan ∧
      (plan.execute Catalog.empty).outcome.1 = .error (.name (.unknownColumn "fan")) ∧
        Catalog.empty.LeastMissing ["rating", "fan"] "fan" ∧
          ∃ members : IdSet, (plan.execute ratingsAndFans).outcome.1 = .ok members ∧
            (∀ id ∈ members, id ∈ ratingsAndFans.ids) ∧ members.toList = [7, 8, 9] := by
  have hexecute := execute_of_compile (scoreSettings .flipLeaves) scoreOrNoFan _ rfl
  obtain ⟨column, hresult, hleast⟩ :=
    (hexecute.2 Catalog.empty).2.2 ⟨"rating", by decide, by decide⟩
  obtain ⟨members, hmembers, hsubset⟩ := (hexecute.2 ratingsAndFans).2.1.mpr (by decide)
  refine ⟨_, rfl, rfl, ?_, members, hmembers, hsubset, ?_⟩
  · cases hresult
    exact hleast
  · cases hmembers
    decide

/-! ## Running a query -/

/-- Running a query selects its meaning: where it compiles with complements for exclusive
disjunctions and every column of its leaves is there, no stage changes what the tree says. -/
theorem run_eq_meaning (settings : Settings) (query : Query) (plan : Plan) (catalog : Catalog)
    (hcomplement : settings.expansion = .complement) (hleaves : 1 ≤ query.leafCount)
    (hcompile : (query.compile settings).outcome.1 = .ok plan)
    (hcolumns : ∀ column ∈ query.leafColumns settings, catalog.hasColumn column = true) :
    ∃ members : IdSet, (query.run settings catalog).outcome.1 = .ok members ∧
      members.toFinset = query.meaning settings catalog := by
  have hne : query.leafCount ≠ 0 := by omega
  have hnodes : query.nodes ≠ [] := by
    intro hnil
    rw [leafCount, hnil] at hne
    exact hne rfl
  obtain ⟨emitted, -, hsymbols, -, -, hpair⟩ := exists_formula_of_compile hne hcompile
  obtain ⟨formula, hderives, hmeaning⟩ := denotes_symbols catalog hnodes hsymbols hpair
  obtain ⟨hsize, hplan⟩ := eq_planOf_of_compile hne hsymbols hderives hcompile
  have hmissing : (planOf settings query formula).columnFault? catalog = none := by
    rw [Plan.columnFault?, ← hplan, Plan.missingColumn?_eq_none_iff.mpr]
    · rfl
    · intro column hcolumn
      exact hcolumns column ((mem_reads_of_compile hcompile column).mp hcolumn)
  have hrun : Yields (query.run settings catalog) (settle ((formula.sizeFault? settings 0).or
      ((planOf settings query formula).columnFault? catalog))
        (((formula.expanded settings.expansion).negatedIf query.inverted).selected catalog)) :=
    (compile_yields hne hsymbols hderives).bind_settle
      (Plan.execute_yields _ query.inverted catalog (formula.xorFree_expanded _))
  rw [hsize, hmissing, hcomplement] at hrun
  refine ⟨_, hrun.outcome, ?_⟩
  rw [meaning, ← hmeaning, toFinset_selected_negatedIf, Formula.selected_expanded]

theorem run_eq_meaning_scoreOrNoFan :
    1 ≤ scoreOrNoFan.leafCount ∧
      (∃ plan, (scoreOrNoFan.compile (scoreSettings .complement)).outcome.1 = .ok plan) ∧
        (∀ column ∈ scoreOrNoFan.leafColumns (scoreSettings .complement),
          ratingsAndFans.hasColumn column = true) ∧
          ∃ members : IdSet,
            (scoreOrNoFan.run (scoreSettings .complement) ratingsAndFans).outcome.1 =
                .ok members ∧
              members.toFinset = scoreOrNoFan.meaning (scoreSettings .complement) ratingsAndFans ∧
                scoreOrNoFan.meaning (scoreSettings .complement) ratingsAndFans = {7, 8} := by
  have hleaves : 1 ≤ scoreOrNoFan.leafCount := by decide
  have hcolumns : ∀ column ∈ scoreOrNoFan.leafColumns (scoreSettings .complement),
      ratingsAndFans.hasColumn column = true := by decide
  obtain ⟨members, hrun, hmembers⟩ := run_eq_meaning (scoreSettings .complement) scoreOrNoFan _
    ratingsAndFans rfl hleaves rfl hcolumns
  exact ⟨hleaves, ⟨_, rfl⟩, hcolumns, members, hrun, hmembers, by decide⟩

end Query

end FacetFilter
