import FacetFilter.Proofs.Plan.Execution
import FacetFilter.Proofs.Program.Heights
import FacetFilter.Proofs.Query.EmptyGroup
import FacetFilter.Proofs.Query.Placement

/-!
# Siblings in a group of their own

Putting the nodes of a query into one group changes nothing but where its symbols
stand, and inverting the group adds one negation to the program.  The inversion of a
query as a whole is a flag of its plan instead, so the two agree in what is selected
and in what is displayed, while a defect among the symbols is named further on.
-/

namespace FacetFilter

open Journaled

/-! ## A last negation and an inverted plan -/

namespace Plan

theorem render_negation {program : Program} (hne : program ≠ []) :
    (Plan.mk (program ++ [.operator .not]) false).render = (Plan.mk program true).render := by
  have hwords : program.map Instruction.render ≠ [] := by simpa using hne
  have hlast : ([.operator .not] : Program).map Instruction.render ≠ [] := by simp
  have hselects : (Plan.mk program true).selectsAll = false := by simpa [selectsAll] using hne
  have hnegated : (Plan.mk (program ++ [.operator .not]) false).selectsAll = false := by
    simp [selectsAll]
  rw [render, render, hselects, hnegated, List.map_append,
    String.intercalate_append_of_ne_nil hwords hlast]
  simp [Instruction.render, Operator.text, String.append_assoc]

/-- An operator reads no column, and no more does an inversion. -/
theorem columnFault?_negation (program : Program) (inverted : Bool) (catalog : Catalog) :
    (Plan.mk (program ++ [.operator .not]) inverted).columnFault? catalog =
      (Plan.mk program true).columnFault? catalog := by
  have hcolumns : Program.columns (program ++ [.operator .not]) = program.columns := by
    simp [Program.columns, List.filterMap_append, Instruction.condition?]
  simp only [columnFault?, missingColumn?, columns, hcolumns]

variable {formula : Formula} (catalog : Catalog) (hfree : formula.program.XorFree)
include hfree

theorem execute_negation :
    ((Plan.mk (formula.program ++ [.operator .not]) false).execute catalog).outcome.1 =
      ((Plan.mk formula.program true).execute catalog).outcome.1 := by
  have hnegated : Program.XorFree (formula.program ++ [.operator .not]) :=
    hfree.append (Program.xorFree_operator (by decide))
  rw [← Formula.program_negation] at hnegated ⊢
  rw [(execute_yields _ false catalog hnegated).outcome,
    (execute_yields formula true catalog hfree).outcome, Formula.program_negation,
    columnFault?_negation]
  rfl

theorem execute_inverted :
    ((Plan.mk formula.program true).execute catalog).outcome.1 =
      (IdSet.complement · catalog.ids) <$>
        ((Plan.mk formula.program false).execute catalog).outcome.1 := by
  rw [(execute_yields formula true catalog hfree).outcome,
    (execute_yields formula false catalog hfree).outcome, map_settle]
  rfl

end Plan

namespace Query

variable {settings : Settings} {nodes : List Node}

/-! ## The program of siblings -/

/-- What a list of nodes with a leaf compiles to; the inversion of the query is no part of it. -/
def programResult (settings : Settings) (nodes : List Node) : Except Fault Program :=
  match symbols settings nodes with
  | .error fault => .error (.query fault)
  | .ok emitted =>
      match Program.ofSymbols emitted with
      | .error fault => .error (.query (.structural fault))
      | .ok program => (program.expand settings).outcome.1

theorem programResult_of_fault {fault : QueryFault}
    (hsymbols : symbols settings nodes = .error fault) :
    programResult settings nodes = .error (.query fault) := by
  rw [programResult, hsymbols]

theorem programResult_of_structural {emitted : List Symbol} {fault : StructureFault}
    (hsymbols : symbols settings nodes = .ok emitted)
    (hfault : Program.ofSymbols emitted = .error fault) :
    programResult settings nodes = .error (.query (.structural fault)) := by
  simp only [programResult, hsymbols, hfault]

theorem programResult_of_derives {emitted : List Symbol} {formula : Formula}
    (hsymbols : symbols settings nodes = .ok emitted)
    (hderives : Derives .expression emitted formula) :
    programResult settings nodes =
      settle (formula.sizeFault? settings 0) (formula.expanded settings.expansion).program := by
  have hprogram := Arrangement.ofSymbols_of_derives hderives
  simp only [programResult, hsymbols, hprogram, (Program.expand_yields settings formula).outcome]

/-- A query with a leaf compiles to the program of its nodes. -/
theorem compile_yields_programResult {query : Query} (hleaves : query.leafCount ≠ 0) :
    Yields (query.compile settings)
      ((Plan.mk · query.inverted) <$> programResult settings query.nodes) := by
  cases hsymbols : symbols settings query.nodes with
  | error fault =>
      rw [programResult_of_fault hsymbols]
      exact compile_yields_fault hleaves hsymbols
  | ok emitted =>
      cases hbuilt : Program.ofSymbols emitted with
      | error fault =>
          rw [programResult_of_structural hsymbols hbuilt]
          exact compile_yields_structural hleaves hsymbols hbuilt
      | ok program =>
          obtain ⟨formula, hderives, -⟩ := Arrangement.derives_of_ofSymbols hbuilt
          rw [programResult_of_derives hsymbols hderives, map_settle]
          exact compile_yields hleaves hsymbols hderives

/-! ## The symbols of a group -/

/-- How many symbols a group begins with. -/
def openingLength (inverted : Bool) : Nat := if inverted then 2 else 1

theorem symbols_group (settings : Settings) (link : Option Junction) (inverted : Bool)
    (nodes : List Node) :
    symbols settings [.group link inverted nodes] =
      match symbols settings nodes with
      | .ok emitted => .ok (negationIf inverted ++ .opening :: (emitted ++ [.closing]))
      | .error fault => .error (fault.moved (openingLength inverted)) := by
  have hmembers : emitNodes settings ([] ++ opened inverted []) nodes =
      behind (opened inverted []) (emitNodes settings [] nodes) := emitNodes_append _ nodes []
  have hlength : (opened inverted []).length = openingLength inverted := by
    cases inverted <;> rfl
  rw [List.nil_append] at hmembers
  rw [symbols, symbols, emitNodes, emitNode, hmembers]
  cases emitNodes settings [] nodes with
  | error fault =>
      rw [behind, hlength]
      rfl
  | ok emitted =>
      have hreverse : (.closing :: (emitted ++ opened inverted [])).reverse =
          negationIf inverted ++ .opening :: (emitted.reverse ++ [.closing]) := by
        rw [opened_eq]
        simp
      exact congrArg Except.ok hreverse

/-- The expression of siblings in parentheses of their own. -/
theorem derives_group {emitted : List Symbol} {formula : Formula} (inverted : Bool)
    (hderives : Derives .expression emitted formula) :
    Derives .expression (negationIf inverted ++ .opening :: (emitted ++ [.closing]))
      (formula.negatedIf inverted) := by
  have hgroup : Derives .operand (.opening :: (emitted ++ [.closing])) formula := .group hderives
  cases inverted with
  | false => exact hgroup.loosen (Phrase.level_le_operand _)
  | true => exact (Derives.negation hgroup).loosen (Phrase.level_le_operand _)

theorem failsAt_group {emitted : List Symbol} {offset : Nat} (inverted : Bool)
    (hfails : Arrangement.FailsAt emitted offset) :
    Arrangement.FailsAt (negationIf inverted ++ .opening :: (emitted ++ [.closing]))
      (offset + openingLength inverted) := by
  have hdue := (keepsDue_negationIf inverted).append Arrangement.keepsDue_opening
  have hlength : (negationIf inverted ++ [Symbol.opening]).length = openingLength inverted := by
    cases inverted <;> rfl
  have hwrapped := (hfails.append [.closing]).prepend hdue
  rw [hlength, Nat.add_comm] at hwrapped
  simpa using hwrapped

/-! ## Compiling a group -/

theorem programResult_group (settings : Settings) (link : Option Junction) (inverted : Bool)
    (hnodes : nodes ≠ []) :
    programResult settings [.group link inverted nodes] =
      match programResult settings nodes with
      | .ok program => .ok (program.negatedIf inverted)
      | .error fault => .error (fault.moved (openingLength inverted)) := by
  have hgroup := symbols_group settings link inverted nodes
  cases hsymbols : symbols settings nodes with
  | error fault =>
      rw [hsymbols] at hgroup
      rw [programResult_of_fault hgroup, programResult_of_fault hsymbols]
      rfl
  | ok emitted =>
      rw [hsymbols] at hgroup
      rcases failsAt_or_derives hsymbols hnodes with
        ⟨offset, -, hfails⟩ | ⟨-, formula, hderives⟩
      · rw [programResult_of_structural hgroup (failsAt_group inverted hfails).ofSymbols,
          programResult_of_structural hsymbols hfails.ofSymbols]
        rfl
      · rw [programResult_of_derives hgroup (derives_group inverted hderives),
          programResult_of_derives hsymbols hderives]
        have hsize : (formula.negatedIf inverted).sizeFault? settings 0 =
            formula.sizeFault? settings 0 := by
          cases inverted <;> rfl
        have hprogram : ((formula.negatedIf inverted).expanded settings.expansion).program =
            (formula.expanded settings.expansion).program.negatedIf inverted := by
          cases inverted with
          | false => rfl
          | true => exact Formula.program_negation _
        rw [hsize, hprogram, Formula.sizeFault?]
        cases formula.overrun? settings 0 <;> rfl

/-! ## Running what was compiled -/

theorem compile_yields_outcome (settings : Settings) (query : Query) :
    Yields (query.compile settings) (query.compile settings).outcome.1 := by
  by_cases hleaves : query.leafCount = 0
  · have hyields := compile_yields_everything settings hleaves
    rwa [← hyields.outcome] at hyields
  · have hyields : Yields (query.compile settings) _ := compile_yields_programResult hleaves
    rwa [← hyields.outcome] at hyields

/-- Running a query executes the plan that it compiles to. -/
theorem run_outcome (settings : Settings) (query : Query) (catalog : Catalog) :
    (query.run settings catalog).outcome.1 =
      (query.compile settings).outcome.1 >>= fun plan => (plan.execute catalog).outcome.1 := by
  have hrun : Yields (query.run settings catalog) ((query.compile settings).outcome.1 >>=
      fun plan => (plan.execute catalog).outcome.1) := by
    refine (compile_yields_outcome settings query).bind _ ?_
    intro plan hcompile
    obtain ⟨members, -, hexecute⟩ := execute_yields_of_compile hcompile catalog
    rwa [← hexecute.outcome] at hexecute
  exact hrun.outcome

theorem run_of_compile {query : Query} {plan : Plan}
    (hcompile : (query.compile settings).outcome.1 = .ok plan) (catalog : Catalog) :
    (query.run settings catalog).outcome.1 = (plan.execute catalog).outcome.1 := by
  rw [run_outcome, hcompile]
  rfl

theorem run_of_fault {query : Query} {fault : Fault}
    (hcompile : (query.compile settings).outcome.1 = .error fault) (catalog : Catalog) :
    (query.run settings catalog).outcome.1 = .error fault := by
  rw [run_outcome, hcompile]
  rfl

/-! ## The group and the flag -/

section Group

variable {link : Option Junction} (hleaves : 1 ≤ Node.leafCounts nodes)
include hleaves

theorem leafCount_ne_zero (whole : Bool) : (Query.mk nodes whole).leafCount ≠ 0 :=
  Nat.ne_of_gt hleaves

/-- Siblings in a group compile to the program that they compile to, or the fault that they have
is named further on. -/
theorem compile_group (inverted whole : Bool) :
    (compile settings ⟨[.group link inverted nodes], whole⟩).outcome.1 =
      match (compile settings ⟨nodes, whole⟩).outcome.1 with
      | .ok plan => .ok ⟨plan.program.negatedIf inverted, whole⟩
      | .error fault => .error (fault.moved (openingLength inverted)) := by
  have hnodes : nodes ≠ [] := by
    rintro rfl
    cases hleaves
  have hgroup : 1 ≤ Node.leafCounts [.group link inverted nodes] := hleaves
  rw [(compile_yields_programResult (leafCount_ne_zero hgroup whole)).outcome,
    (compile_yields_programResult (leafCount_ne_zero hleaves whole)).outcome,
    programResult_group settings link inverted hnodes]
  cases programResult settings nodes <;> rfl

/-- Compiling does not look at the inversion of the query as a whole. -/
theorem compile_inverted :
    (compile settings ⟨nodes, true⟩).outcome.1 =
      (fun plan => ⟨plan.program, true⟩) <$> (compile settings ⟨nodes, false⟩).outcome.1 := by
  rw [(compile_yields_programResult (leafCount_ne_zero hleaves true)).outcome,
    (compile_yields_programResult (leafCount_ne_zero hleaves false)).outcome]
  cases programResult settings nodes <;> rfl

/-- The plans of a query, of the query inverted and of its nodes in an inverted group. -/
theorem exists_formula_of_plain {plan : Plan}
    (hcompile : (compile settings ⟨nodes, false⟩).outcome.1 = .ok plan) :
    ∃ formula : Formula, formula.program.XorFree ∧ plan = ⟨formula.program, false⟩ ∧
      (compile settings ⟨nodes, true⟩).outcome.1 = .ok ⟨formula.program, true⟩ ∧
        (compile settings ⟨[.group link true nodes], false⟩).outcome.1 =
          .ok ⟨formula.program ++ [.operator .not], false⟩ := by
  obtain ⟨-, formula, -, -, rfl, -⟩ :=
    exists_formula_of_compile (leafCount_ne_zero hleaves false) hcompile
  refine ⟨_, formula.xorFree_expanded settings.expansion, rfl, ?_, ?_⟩
  · rw [compile_inverted hleaves, hcompile]
    rfl
  · rw [compile_group hleaves, hcompile]
    rfl

/-- Where a query that is not inverted succeeds, inverting it or a group of its nodes gives the
complement. -/
theorem run_complement {catalog : Catalog} {members : IdSet}
    (hrun : (run settings ⟨nodes, false⟩ catalog).outcome.1 = .ok members) :
    (run settings ⟨nodes, true⟩ catalog).outcome.1 =
        .ok (IdSet.complement members catalog.ids) ∧
      (run settings ⟨[.group link true nodes], false⟩ catalog).outcome.1 =
        .ok (IdSet.complement members catalog.ids) := by
  cases hcompile : (compile settings ⟨nodes, false⟩).outcome.1 with
  | error fault =>
      rw [run_of_fault hcompile] at hrun
      cases hrun
  | ok plan =>
      obtain ⟨formula, hfree, rfl, htrue, hgroup⟩ := exists_formula_of_plain hleaves hcompile
      rw [run_of_compile hcompile] at hrun
      have hinverted := Plan.execute_inverted catalog hfree
      rw [hrun] at hinverted
      rw [run_of_compile htrue, run_of_compile hgroup, Plan.execute_negation catalog hfree]
      exact ⟨hinverted, hinverted⟩

/-- Inverting the group and inverting the query have plans that are displayed alike and give the
same result in every catalog. -/
theorem exists_group_of_compile {plan : Plan}
    (hcompile : (compile settings ⟨nodes, true⟩).outcome.1 = .ok plan) :
    ∃ grouped, (compile settings ⟨[.group link true nodes], false⟩).outcome.1 = .ok grouped ∧
      grouped.render = plan.render ∧
        ∀ catalog, (run settings ⟨[.group link true nodes], false⟩ catalog).outcome.1 =
          (run settings ⟨nodes, true⟩ catalog).outcome.1 := by
  cases hplain : (compile settings ⟨nodes, false⟩).outcome.1 with
  | error fault =>
      rw [compile_inverted hleaves, hplain] at hcompile
      cases hcompile
  | ok plain =>
      obtain ⟨formula, hfree, -, htrue, hgroup⟩ := exists_formula_of_plain hleaves hplain
      rw [htrue] at hcompile
      cases hcompile
      refine ⟨_, hgroup, Plan.render_negation formula.program_ne_nil, fun catalog => ?_⟩
      rw [run_of_compile hgroup, run_of_compile htrue]
      exact Plan.execute_negation catalog hfree

end Group

/-- Siblings in one group compile to the same program, with one negation more where the group is
inverted, or have the same fault with its place among the symbols moved on.  Inverting that group
or the query as a whole is displayed alike and selects the same, which is the complement of what
the query selects when it is not inverted. -/
theorem compile_and_run_group (settings : Settings) (link : Option Junction) (nodes : List Node)
    (hleaves : 1 ≤ Node.leafCounts nodes) :
    (∀ inverted whole : Bool,
        (compile settings ⟨[.group link inverted nodes], whole⟩).outcome.1 =
          match (compile settings ⟨nodes, whole⟩).outcome.1 with
          | .ok plan =>
              .ok ⟨if inverted then plan.program ++ [.operator .not] else plan.program, whole⟩
          | .error fault => .error (fault.moved (if inverted then 2 else 1))) ∧
      (∀ plan, (compile settings ⟨nodes, true⟩).outcome.1 = .ok plan →
        ∃ grouped, (compile settings ⟨[.group link true nodes], false⟩).outcome.1 = .ok grouped ∧
          grouped.render = plan.render ∧
            ∀ catalog, (run settings ⟨[.group link true nodes], false⟩ catalog).outcome.1 =
              (run settings ⟨nodes, true⟩ catalog).outcome.1) ∧
        (∀ fault, (compile settings ⟨nodes, true⟩).outcome.1 = .error fault →
          ∀ catalog, (run settings ⟨nodes, true⟩ catalog).outcome.1 = .error fault ∧
            (run settings ⟨[.group link true nodes], false⟩ catalog).outcome.1 =
              .error (fault.moved 2)) ∧
          ∀ (catalog : Catalog) (members : IdSet),
            (run settings ⟨nodes, false⟩ catalog).outcome.1 = .ok members →
              (run settings ⟨nodes, true⟩ catalog).outcome.1 =
                  .ok (IdSet.complement members catalog.ids) ∧
                (run settings ⟨[.group link true nodes], false⟩ catalog).outcome.1 =
                  .ok (IdSet.complement members catalog.ids) := by
  refine ⟨compile_group hleaves, fun _ => exists_group_of_compile hleaves, ?_,
    fun _ _ => run_complement hleaves⟩
  intro fault hfault catalog
  refine ⟨run_of_fault hfault catalog, run_of_fault ?_ catalog⟩
  rw [compile_inverted hleaves] at hfault
  rw [compile_group hleaves]
  cases hplain : (compile settings ⟨nodes, false⟩).outcome.1 with
  | ok plan =>
      rw [hplain] at hfault
      cases hfault
  | error other =>
      rw [hplain] at hfault
      cases hfault
      rfl

/-- A score, but the tag next to it and what follows have no link. -/
def unlinkedTag : List Node :=
  [.leaf none (flagLeaf "score"), .leaf none (.label .tag ⟨some "has", some (.text "new"), false⟩)]

/-- The nodes select one entity of three and in an inverted group the two others; the link that is
missing is named two symbols further on. -/
theorem compile_and_run_group_scoreOrNoFan :
    1 ≤ Node.leafCounts scoreOrNoFan.nodes ∧
      (run (scoreSettings .complement) ⟨scoreOrNoFan.nodes, false⟩ ratingsAndFans).outcome.1 =
          .ok (Ascending.ofList [9]) ∧
        (run (scoreSettings .complement) ⟨[.group none true scoreOrNoFan.nodes], false⟩
          ratingsAndFans).outcome.1 = .ok (Ascending.ofList [7, 8]) ∧
          (compile .standard ⟨[.group none true unlinkedTag], false⟩).outcome.1 =
            .error (.query (.missingLink 3)) := by
  have hscore : 1 ≤ Node.leafCounts scoreOrNoFan.nodes := by decide
  have htag : 1 ≤ Node.leafCounts unlinkedTag := by decide
  have hplain : (run (scoreSettings .complement) ⟨scoreOrNoFan.nodes, false⟩
      ratingsAndFans).outcome.1 = .ok (Ascending.ofList [9]) := by rfl
  have hrun := compile_and_run_group (scoreSettings .complement) none scoreOrNoFan.nodes hscore
  have hcompile := compile_and_run_group .standard none unlinkedTag htag
  exact ⟨hscore, hplain, (hrun.2.2.2 _ _ hplain).2, hcompile.1 true false⟩

end Query

end FacetFilter
