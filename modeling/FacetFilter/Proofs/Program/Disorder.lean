import FacetFilter.Proofs.Program.Retraction

/-!
# Programs out of order

Writing out and evaluating are two readings of one machine, and neither fails by
itself where there is no exclusive disjunction and no column is missing.  Both then
find the same fault of a program that does not keep its stack, or none.  Inverting
adds a negation at the end, behind which nothing is found that was not found before.
An exclusive disjunction ends an evaluation, unless an operator before it already did.
-/

namespace FacetFilter

open Journaled

namespace Program

variable {program : Program} {catalog : Catalog}

/-! ## Writing out -/

theorem expansionReading_serves (settings : Settings) (hfree : program.XorFree) :
    (expansionReading settings).Serves program where
  leaf condition _ := ⟨.ofCondition condition, yields_pure _⟩
  join junction hmem position := by
    refine ⟨_, rfl, fun left right => ?_⟩
    cases junction with
    | and | or => exact ⟨_, yields_pure _⟩
    | xor => exact absurd (hfree _ hmem) (by decide)

theorem expand_of_disordered (settings : Settings) (hfree : program.XorFree)
    {fault : MachineFault} (hdisordered : program.Disordered fault) :
    (program.expand settings).outcome.1 = .error (.machine fault) :=
  (((expansionReading_serves settings hfree).run_of_disordered hdisordered).bind_error _).outcome

/-! ## Evaluating -/

theorem evaluationReading_serves (hfree : program.XorFree)
    (hcolumns : ∀ column ∈ program.columns, catalog.hasColumn column = true) :
    (evaluationReading catalog).Serves program where
  leaf condition hmem := by
    have hfault : columnFault? [.leaf condition] catalog = none := by
      rw [columnFault?, missing?, Option.map_eq_none_iff, List.find?_eq_none]
      intro column hcolumn
      have hread : column ∈ program.reads := by
        obtain ⟨instruction, hinstruction, hreads⟩ := List.mem_filterMap.mp hcolumn
        rw [List.mem_singleton.mp hinstruction] at hreads
        exact List.mem_filterMap.mpr ⟨_, hmem, hreads⟩
      simp [hcolumns column (Ascending.mem_ofList.mpr hread)]
    have hselection := selection_yields catalog condition
    rw [hfault] at hselection
    exact ⟨_, hselection⟩
  join junction hmem position := by
    cases junction with
    | and | or => exact ⟨_, rfl, fun left right => ⟨_, yields_pure _⟩⟩
    | xor => exact absurd (hfree _ hmem) (by decide)

theorem evaluate_yields_of_run {inverted : Bool} {result : Except Fault IdSet}
    (hne : program ≠ [])
    (hrun : Yields ((evaluationReading catalog).run (program.negatedIf inverted)) result) :
    Yields (program.evaluate catalog inverted) result := by
  rw [evaluate, if_neg (by simpa using hne)]
  exact (reportingViolations_yields hrun).before_tell _

section Served

variable (hserves : (evaluationReading catalog).Serves program) (inverted : Bool)
include hserves

theorem serves_negatedIf : (evaluationReading catalog).Serves (program.negatedIf inverted) := by
  cases inverted with
  | false => exact hserves
  | true => exact hserves.negation

theorem evaluate_of_wellFormed (hwell : program.WellFormed) :
    ∃ members, (program.evaluate catalog inverted).outcome.1 = .ok members := by
  have hne : program ≠ [] := by
    rintro rfl
    cases hwell
  have hwhole : (program.negatedIf inverted).WellFormed := by
    cases inverted with
    | false => exact hwell
    | true => exact height?_negation hne hwell
  obtain ⟨members, hrun⟩ := (serves_negatedIf hserves inverted).run_of_wellFormed hwhole
  exact ⟨members, (evaluate_yields_of_run hne hrun).outcome⟩

theorem evaluate_of_disordered {fault : MachineFault} (hne : program ≠ [])
    (hdisordered : program.Disordered fault) :
    (program.evaluate catalog inverted).outcome.1 = .error (.machine fault) := by
  have hwhole : (program.negatedIf inverted).Disordered fault := by
    cases inverted with
    | false => exact hdisordered
    | true => exact hdisordered.negation hne
  have hrun := (serves_negatedIf hserves inverted).run_of_disordered hwhole
  exact (evaluate_yields_of_run hne hrun).outcome

end Served

/-! ## The first exclusive disjunction -/

theorem exists_first_xor (hnot : ¬program.XorFree) :
    ∃ before after : Program, program = before ++ .operator (.join .xor) :: after ∧
      before.XorFree := by
  induction program with
  | nil => exact absurd (List.forall_mem_nil _) hnot
  | cons instruction program ih =>
      by_cases hxor : instruction = .operator (.join .xor)
      · subst hxor
        exact ⟨[], program, rfl, List.forall_mem_nil _⟩
      · have hfirst : instruction.isXor = false := by
          rcases instruction with _ | (_ | (_ | _ | _))
          · rfl
          · rfl
          · rfl
          · rfl
          · exact absurd rfl hxor
        have hrest : ¬XorFree program := fun hfree =>
          hnot (List.forall_mem_cons.mpr ⟨hfirst, hfree⟩)
        obtain ⟨before, after, rfl, hbefore⟩ := ih hrest
        exact ⟨instruction :: before, after, rfl, List.forall_mem_cons.mpr ⟨hfirst, hbefore⟩⟩

/-- Evaluation ends at the first exclusive disjunction, with or without its operands, unless an
operator before it lacks its own. -/
theorem evaluate_of_first_xor {before after : Program}
    (hserves : (evaluationReading catalog).Serves before) (inverted : Bool) :
    (evaluate (before ++ .operator (.join .xor) :: after) catalog inverted).outcome.1 =
        .error (.machine (.exclusive before.length)) ∨
      ∃ operator position, position < before.length ∧
        Disordered (before ++ .operator (.join .xor) :: after) (.underflow operator position) ∧
          (evaluate (before ++ .operator (.join .xor) :: after) catalog inverted).outcome.1 =
            .error (.machine (.underflow operator position)) := by
  have hne : before ++ .operator (.join .xor) :: after ≠ [] := by simp
  obtain ⟨rest, hwhole⟩ : ∃ rest,
      negatedIf inverted (before ++ .operator (.join .xor) :: after) =
        before ++ .operator (.join .xor) :: rest := by
    cases inverted with
    | false => exact ⟨after, rfl⟩
    | true => exact ⟨after ++ [.operator .not], by simp [negatedIf]⟩
  rcases before.height?_or_lacking 0 with
    ⟨height, hheight⟩ | ⟨first, last, operator, height, rfl, hfirst, hlacking⟩
  · refine .inl (evaluate_yields_of_run hne ?_).outcome
    rw [hwhole]
    exact Interpretation.run_of_failing_step hserves hheight fun stack _ => yields_throw _
  · refine .inr ⟨operator, first.length, by simp, ?_, (evaluate_yields_of_run hne ?_).outcome⟩
    · exact .underflow (List.append_assoc _ _ _) hfirst hlacking
    · rw [hwhole, List.append_assoc, List.cons_append]
      refine Interpretation.run_of_failing_step (hserves.mono (List.subset_append_left _ _))
        hfirst ?_
      rintro stack rfl
      exact (hserves.mono (by simp)).step_lacking first.length hlacking

/-! ## The two machines together -/

/-- Where every column is there, writing out a program without exclusive disjunctions and
evaluating it, inverted or not, fail with the same fault, by the heights of the stack, or both
succeed.  A program with an exclusive disjunction has no evaluation. -/
theorem expand_and_evaluate_agree (settings : Settings) (program : Program) (catalog : Catalog)
    (hcolumns : ∀ column ∈ program.columns, catalog.hasColumn column = true) :
    (program ≠ [] → program.XorFree → ∀ inverted,
      (∀ fault, (program.expand settings).outcome.1 = .error fault ↔
          (program.evaluate catalog inverted).outcome.1 = .error fault) ∧
        (∀ fault, (program.evaluate catalog inverted).outcome.1 = .error fault ↔
          ∃ violation, fault = .machine violation ∧ program.Disordered violation) ∧
        ((∃ expanded, (program.expand settings).outcome.1 = .ok expanded) ↔
          ∃ members, (program.evaluate catalog inverted).outcome.1 = .ok members)) ∧
      (¬program.XorFree → ∃ before after : Program,
        program = before ++ .operator (.join .xor) :: after ∧ before.XorFree ∧ ∀ inverted,
          (program.evaluate catalog inverted).outcome.1 =
              .error (.machine (.exclusive before.length)) ∨
            ∃ operator position, position < before.length ∧
              program.Disordered (.underflow operator position) ∧
                (program.evaluate catalog inverted).outcome.1 =
                  .error (.machine (.underflow operator position))) := by
  constructor
  · intro hne hfree inverted
    have hserves := evaluationReading_serves hfree hcolumns
    rcases program.wellFormed_or_disordered with hwell | ⟨violation, hdisordered⟩
    · have hexpand := expand_of_xorFree settings hwell hfree
      obtain ⟨members, hevaluate⟩ := evaluate_of_wellFormed hserves inverted hwell
      have hordered : ∀ violation, ¬program.Disordered violation := by
        intro violation hdisordered
        rw [evaluate_of_disordered hserves inverted hne hdisordered] at hevaluate
        cases hevaluate
      rw [hexpand, hevaluate]
      simp [hordered]
    · have hexpand := expand_of_disordered settings hfree hdisordered
      have hevaluate := evaluate_of_disordered hserves inverted hne hdisordered
      have hunique : ∀ other, program.Disordered other ↔ violation = other := by
        intro other
        refine ⟨fun hother => ?_, fun heq => heq ▸ hdisordered⟩
        rw [evaluate_of_disordered hserves inverted hne hother] at hevaluate
        cases hevaluate
        rfl
      rw [hexpand, hevaluate]
      simp [hunique, eq_comm]
  · intro hnot
    obtain ⟨before, after, rfl, hbefore⟩ := exists_first_xor hnot
    refine ⟨before, after, rfl, hbefore, evaluate_of_first_xor ?_⟩
    refine evaluationReading_serves hbefore fun column hcolumn => hcolumns column ?_
    have hread : column ∈ reads (before ++ .operator (.join .xor) :: after) := by
      rw [reads_append]
      exact List.mem_append_left _ (Ascending.mem_ofList.mp hcolumn)
    exact Ascending.mem_ofList.mpr hread

/-- A fan, and what has no tag that nothing carries, and a last junction with nothing to join. -/
def looseJunction : Program :=
  [.leaf (.flag (.onColumn "fan")), .leaf (.label .tag ⟨.has, "gone", false⟩), .operator .not,
    .operator (.join .and), .operator (.join .or)]

/-- An exclusive disjunction of one fan. -/
def looseExclusion : Program := [.leaf (.flag (.onColumn "fan")), .operator (.join .xor)]

/-- The junction without operands is found by both machines, the exclusive disjunction by its
kind and not by what it lacks. -/
theorem expand_and_evaluate_agree_looseJunction :
    (∀ column ∈ looseJunction.columns, (Catalog.empty.declare "fan").hasColumn column = true) ∧
      looseJunction.XorFree ∧ ¬looseExclusion.XorFree ∧ ∀ inverted,
        (looseJunction.evaluate (Catalog.empty.declare "fan") inverted).outcome.1 =
            .error (.machine (.underflow (.join .or) 4)) ∧
          ∃ fault, (looseExclusion.evaluate (Catalog.empty.declare "fan") inverted).outcome.1 =
            .error fault := by
  have hcolumns : ∀ column ∈ looseJunction.columns,
      (Catalog.empty.declare "fan").hasColumn column = true := by
    decide
  have hfree : looseJunction.XorFree := by
    decide
  have hnot : ¬looseExclusion.XorFree := by
    decide
  refine ⟨hcolumns, hfree, hnot, fun inverted => ⟨?_, ?_⟩⟩
  · have hagree := expand_and_evaluate_agree .standard looseJunction _ hcolumns
    exact ((hagree.1 (by simp [looseJunction]) hfree inverted).1 _).mp rfl
  · have hagree := expand_and_evaluate_agree .standard looseExclusion
      (Catalog.empty.declare "fan") hcolumns
    obtain ⟨before, after, -, -, hfirst⟩ := hagree.2 hnot
    rcases hfirst inverted with hexclusive | ⟨operator, position, -, -, hunderflow⟩
    · exact ⟨_, hexclusive⟩
    · exact ⟨_, hunderflow⟩

end Program

end FacetFilter
