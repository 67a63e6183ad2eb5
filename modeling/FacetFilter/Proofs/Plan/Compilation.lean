import FacetFilter.Plan.Compilation
import FacetFilter.Proofs.Program.Limit
import FacetFilter.Proofs.Program.Parsing
import FacetFilter.Proofs.Query.Meaning

/-!
# Compiled plans

A query with a leaf compiles to the written-out program of the formula that its
expression derives.  From there on the plan is a formula again: what it selects
is the meaning of the query, and the columns that it reads are those of the
leaves.
-/

namespace FacetFilter

open Journaled

namespace Query

variable {settings : Settings} {query : Query} {emitted : List Symbol} {formula : Formula}

/-- The plan of a formula. -/
def planOf (settings : Settings) (query : Query) (formula : Formula) : Plan :=
  ⟨(formula.expanded settings.expansion).program, query.inverted⟩

theorem compile_yields_everything (settings : Settings) (hleaves : query.leafCount = 0) :
    Yields (query.compile settings) (.ok .everything) := by
  rw [compile, if_pos hleaves]
  exact (yields_pure _).after_tell _

theorem compile_yields (hleaves : query.leafCount ≠ 0)
    (hsymbols : symbols settings query.nodes = .ok emitted)
    (hderives : Derives .expression emitted formula) :
    Yields (query.compile settings)
      (settle (formula.sizeFault? settings 0) (planOf settings query formula)) := by
  have hemit : Yields (emit settings query.nodes) (settle none emitted) := by
    rw [emit, hsymbols]
    exact (yields_pure _).after_tell _
  have hbuild : Yields (Program.build emitted) (settle none formula.program) := by
    rw [Program.build, Arrangement.ofSymbols_of_derives hderives]
    exact (yields_pure _).after_tell _
  rw [compile, if_neg hleaves, ← Option.or_none (o := formula.sizeFault? settings 0)]
  exact hemit.bind_settle (hbuild.bind_settle ((Program.expand_yields settings formula).bind_settle
    ((yields_pure _).after_tell _)))

theorem compile_yields_structural {fault : StructureFault} (hleaves : query.leafCount ≠ 0)
    (hsymbols : symbols settings query.nodes = .ok emitted)
    (hfault : Program.ofSymbols emitted = .error fault) :
    Yields (query.compile settings) (.error (.query (.structural fault))) := by
  have hemit : Yields (emit settings query.nodes) (settle none emitted) := by
    rw [emit, hsymbols]
    exact (yields_pure _).after_tell _
  have hbuild : Yields (Program.build emitted) (.error (.query (.structural fault))) := by
    rw [Program.build, hfault]
    exact yields_throw _
  rw [compile, if_neg hleaves]
  exact hemit.bind (fun _ => .error (.query (.structural fault))) fun value hvalue => by
    cases hvalue
    exact hbuild.bind_error _

theorem compile_yields_fault {fault : QueryFault} (hleaves : query.leafCount ≠ 0)
    (hsymbols : symbols settings query.nodes = .error fault) :
    Yields (query.compile settings) (.error (.query fault)) := by
  have hemit : Yields (emit settings query.nodes) (.error (.query fault)) := by
    rw [emit, hsymbols]
    exact yields_throw _
  rw [compile, if_neg hleaves]
  exact hemit.bind_error _

/-- A compilation that succeeds gives the plan of the formula, which is not too large. -/
theorem eq_planOf_of_compile {plan : Plan} (hleaves : query.leafCount ≠ 0)
    (hsymbols : symbols settings query.nodes = .ok emitted)
    (hderives : Derives .expression emitted formula)
    (hcompile : (query.compile settings).outcome.1 = .ok plan) :
    formula.sizeFault? settings 0 = none ∧ plan = planOf settings query formula := by
  rw [(compile_yields hleaves hsymbols hderives).outcome] at hcompile
  cases hfault : formula.sizeFault? settings 0 with
  | some fault =>
      rw [hfault] at hcompile
      cases hcompile
  | none =>
      rw [hfault] at hcompile
      cases hcompile
      exact ⟨rfl, rfl⟩

/-- What a successful compilation says about the query. -/
theorem exists_formula_of_compile {plan : Plan} (hleaves : query.leafCount ≠ 0)
    (hcompile : (query.compile settings).outcome.1 = .ok plan) :
    ∃ emitted formula, symbols settings query.nodes = .ok emitted ∧
      Derives .expression emitted formula ∧ plan = planOf settings query formula ∧
        ¬[.opening, .closing] <:+: emitted := by
  cases hsymbols : symbols settings query.nodes with
  | error fault =>
      rw [(compile_yields_fault hleaves hsymbols).outcome] at hcompile
      cases hcompile
  | ok emitted =>
      cases hbuilt : Program.ofSymbols emitted with
      | error fault =>
          rw [(compile_yields_structural hleaves hsymbols hbuilt).outcome] at hcompile
          cases hcompile
      | ok program =>
          obtain ⟨formula, hderives, -⟩ := Arrangement.derives_of_ofSymbols hbuilt
          exact ⟨emitted, formula, rfl, hderives,
            (eq_planOf_of_compile hleaves hsymbols hderives hcompile).2,
            Program.not_infix_of_ofSymbols hbuilt⟩

theorem eq_everything_of_compile {plan : Plan} (hleaves : query.leafCount = 0)
    (hcompile : (query.compile settings).outcome.1 = .ok plan) : plan = .everything := by
  rw [(compile_yields_everything settings hleaves).outcome] at hcompile
  cases hcompile
  rfl

/-! ## The length of a plan -/

/-- The limit bounds each written-out exclusive disjunction of a plan; what joins and negates
them comes on top, so a plan as a whole may be longer. -/
theorem length_le_ceiling_of_compile (settings : Settings) (query : Query) (plan : Plan)
    (hcompile : (query.compile settings).outcome.1 = .ok plan) :
    plan.program = [] ∨
      ∃ emitted formula, symbols settings query.nodes = .ok emitted ∧
        Derives .expression emitted formula ∧
          plan.program.length ≤ formula.ceiling settings.maxInstructions := by
  by_cases hleaves : query.leafCount = 0
  · rw [eq_everything_of_compile hleaves hcompile]
    exact .inl rfl
  · obtain ⟨emitted, formula, hsymbols, hderives, -⟩ := exists_formula_of_compile hleaves hcompile
    obtain ⟨hsize, rfl⟩ := eq_planOf_of_compile hleaves hsymbols hderives hcompile
    refine .inr ⟨emitted, formula, hsymbols, hderives, ?_⟩
    rw [planOf, Formula.length_program]
    exact Formula.size_expanded_le_ceiling (Option.map_eq_none_iff.mp hsize)

/-- A leaf that asks for a flag. -/
def flagLeaf (column : String) : Leaf :=
  .flag ⟨some column, none, some (.bool true), false, false, false⟩

/-- A fan or a rating and not both, or a stock or a score and not both. -/
def twoExclusions : Query where
  nodes := [.leaf none (flagLeaf "fan"), .leaf (some .xor) (flagLeaf "rating"),
    .leaf (some .or) (flagLeaf "stock"), .leaf (some .xor) (flagLeaf "score")]
  inverted := false

/-- Settings in which nine instructions are the limit. -/
def nineInstructions : Settings := ⟨.empty, .complement, 9⟩

theorem length_le_ceiling_of_compile_twoExclusions :
    ∃ plan, (twoExclusions.compile nineInstructions).outcome.1 = .ok plan ∧
      plan.program ≠ [] ∧
        ∃ emitted formula, symbols nineInstructions twoExclusions.nodes = .ok emitted ∧
          Derives .expression emitted formula ∧ plan.program.length ≤ formula.ceiling 9 := by
  have hlength := length_le_ceiling_of_compile nineInstructions twoExclusions _ rfl
  exact ⟨_, rfl, nofun, hlength.resolve_left nofun⟩

/-- Two exclusive disjunctions within the limit make a plan beyond it. -/
theorem length_exceeds_limit :
    ∃ plan, (twoExclusions.compile nineInstructions).outcome.1 = .ok plan ∧
      nineInstructions.maxInstructions < plan.program.length :=
  ⟨_, rfl, by decide⟩

/-! ## The columns of a plan -/

theorem filterMap_eq_of_map_eq_ok {leaves : List Leaf} {conditions : List Condition}
    (hconditions : leaves.map (leafCondition settings) = conditions.map .ok) :
    leaves.filterMap (leafColumn? settings) = conditions.filterMap Condition.column? := by
  induction leaves generalizing conditions with
  | nil =>
      rw [List.map_nil, eq_comm, List.map_eq_nil_iff] at hconditions
      rw [hconditions]
      rfl
  | cons leaf leaves ih =>
      rcases conditions with _ | ⟨condition, conditions⟩
      · cases hconditions
      · rw [List.map_cons, List.map_cons, List.cons.injEq] at hconditions
        rw [List.filterMap_cons, List.filterMap_cons, ih hconditions.2,
          column?_of_leafCondition hconditions.1]

/-- The formula of a query reads the columns of its leaves, in the order of the document. -/
theorem reads_program (hsymbols : symbols settings query.nodes = .ok emitted)
    (hderives : Derives .expression emitted formula) :
    Program.reads formula.program = query.leafColumns settings := by
  have hconditions := conditions_program hsymbols hderives
  rw [leafColumns, filterMap_eq_of_map_eq_ok hconditions, List.filterMap_filterMap]
  rfl

end Query

namespace Plan

variable {plan : Plan} {catalog : Catalog}

theorem mem_columns_iff {column : String} :
    column ∈ plan.columns ↔ column ∈ plan.program.reads := Ascending.mem_ofList

theorem missingColumn?_eq_none_iff :
    plan.missingColumn? catalog = none ↔
      ∀ column ∈ plan.program.reads, catalog.hasColumn column = true := by
  rw [missingColumn?, List.find?_eq_none]
  constructor
  · intro hnone column hcolumn
    have hhas := hnone column (mem_columns_iff.mpr hcolumn)
    simpa using hhas
  · intro hall column hcolumn
    simp [hall column (mem_columns_iff.mp hcolumn)]

/-- The fault of a plan that reads a column that the catalog does not have. -/
def columnFault? (plan : Plan) (catalog : Catalog) : Option Fault :=
  (plan.missingColumn? catalog).map fun column => .name (.unknownColumn column)

theorem validate_yields (plan : Plan) (catalog : Catalog) :
    Yields (plan.validate catalog) (settle (plan.columnFault? catalog) ()) := by
  rw [validate, columnFault?]
  cases plan.missingColumn? catalog with
  | some column => exact (yields_throw _).after_tell _
  | none => exact yields_pure _

/-- A plan of a formula selects what the formula does, unless a column is missing. -/
theorem execute_yields (formula : Formula) (inverted : Bool) (catalog : Catalog)
    (hfree : Program.XorFree formula.program) :
    Yields ((Plan.mk formula.program inverted).execute catalog)
      (settle ((Plan.mk formula.program inverted).columnFault? catalog)
        ((formula.negatedIf inverted).selected catalog)) := by
  have hexecute : Yields ((Plan.mk formula.program inverted).execute catalog)
      (settle (((Plan.mk formula.program inverted).columnFault? catalog).or
        (formula.program.columnFault? catalog)) ((formula.negatedIf inverted).selected catalog)) :=
    (validate_yields _ catalog).bind_settle
      (Program.evaluate_yields catalog formula inverted hfree)
  have hfault : ((Plan.mk formula.program inverted).columnFault? catalog).or
      (formula.program.columnFault? catalog) =
        (Plan.mk formula.program inverted).columnFault? catalog := by
    rw [columnFault?]
    cases hmissing : (Plan.mk formula.program inverted).missingColumn? catalog with
    | some column => rfl
    | none =>
        have hall := missingColumn?_eq_none_iff.mp hmissing
        have hnone : formula.program.missing? catalog = none :=
          List.find?_eq_none.mpr fun column hcolumn => by simp [hall column hcolumn]
        rw [Program.columnFault?, hnone]
        rfl
  rwa [hfault] at hexecute

end Plan

end FacetFilter
