import FacetFilter.Proofs.Plan.Execution
import FacetFilter.Proofs.Query.Exclusions

/-!
# What a run tells

The stages of a run tell their sizes one after the other, and a run that is refused
ends with the event of the stage that refuses it.  Sizes that two stages count for
themselves agree, and labels that nothing carries are told one by one in the order
of the written-out program.
-/

namespace FacetFilter

open Journaled

/-- What evaluating a condition tells: its label, where no entity carries it. -/
def Condition.miss? (catalog : Catalog) : Condition → Option Event
  | .label kind condition =>
      if catalog.hasLabel kind condition.value then none
      else some (.labelMissed kind condition.value)
  | _ => none

/-- The labels that a program asks for and no entity carries, as often as it asks for them. -/
def Program.misses (program : Program) (catalog : Catalog) : List Event :=
  program.filterMap fun instruction => instruction.condition?.bind (Condition.miss? catalog)

/-! ## Writing out -/

namespace Program

variable {settings : Settings} {formula : Formula} {position : Nat}

/-- Writing out tells nothing on the way where every exclusive disjunction keeps to the limit. -/
theorem expansionReading_tells (hwithin : formula.overrun? settings position = none) :
    Tells ((expansionReading settings).value position formula)
      (.ok (.ofFormula (formula.expanded settings.expansion))) [] := by
  induction formula generalizing position with
  | leaf condition => exact tells_pure _
  | negation operand ih => exact (ih hwithin).map Operand.negation
  | join junction left right ihLeft ihRight =>
      rw [Formula.overrun?, Option.or_eq_none_iff, Option.or_eq_none_iff] at hwithin
      obtain ⟨hleft, hright, hown⟩ := hwithin
      refine (ihLeft hleft).bind ((ihRight hright).bind ?_)
      cases junction with
      | and | or => exact tells_pure _
      | xor =>
          rw [expansionReading_combine_xor, if_neg (by simpa using hown)]
          exact tells_pure _

/-- Where one does not, the first that does not is told with the size that it was counted to
have. -/
theorem expansionReading_tells_refusal {start : Nat}
    (hpast : formula.overrun? settings start = some position) :
    ∃ offset left right, position = start + offset ∧
      formula.program.ExclusiveAt offset left right ∧
        Tells ((expansionReading settings).value start formula)
          (.error (.query (.tooLarge settings.maxInstructions position)))
          [.expansionRefused position (left.checkedSize settings.expansion right)
            settings.maxInstructions] := by
  induction formula generalizing start with
  | leaf condition => cases hpast
  | negation operand ih =>
      obtain ⟨offset, left, right, hposition, hexclusive, htells⟩ := ih hpast
      refine ⟨offset, left, right, hposition, ?_, htells.map_error Operand.negation⟩
      rw [Formula.program_negation, exclusiveAt_append_operator]
      exact .inl hexclusive
  | join junction first second ihFirst ihSecond =>
      rw [Formula.overrun?, Option.or_eq_some_iff, Option.or_eq_some_iff] at hpast
      -- Past the limit first inside the first operand, inside the second, or at the join itself.
      rcases hpast with hpast | ⟨hfirst, hpast | ⟨hsecond, hown⟩⟩
      · obtain ⟨offset, left, right, hposition, hexclusive, htells⟩ := ihFirst hpast
        exact ⟨offset, left, right, hposition, exclusiveAt_join.mpr (.inl hexclusive),
          htells.bind_error _⟩
      · obtain ⟨offset, left, right, rfl, hexclusive, htells⟩ := ihSecond hpast
        exact ⟨first.size + offset, left, right, Nat.add_assoc ..,
          exclusiveAt_join.mpr (.inr (.inl ⟨offset, rfl, hexclusive⟩)),
          (expansionReading_tells hfirst).bind (htells.bind_error _)⟩
      · rw [Option.ite_none_right_eq_some] at hown
        obtain ⟨⟨rfl, hlimit⟩, hposition⟩ := hown
        cases hposition
        refine ⟨first.size + second.size, first, second, Nat.add_assoc ..,
          exclusiveAt_join.mpr (.inr (.inr ⟨rfl, rfl, rfl, rfl⟩)), ?_⟩
        refine (expansionReading_tells hfirst).bind ((expansionReading_tells hsecond).bind ?_)
        rw [expansionReading_combine_xor, if_pos hlimit, Formula.checkedSize,
          ← Formula.projectedSize_eq_size]
        exact (tells_throw _).after_tell _

theorem expand_tells (hwithin : formula.overrun? settings 0 = none) :
    Tells (formula.program.expand settings) (.ok (formula.expanded settings.expansion).program)
      [.expanded (formula.program.countP Instruction.isXor) formula.program.length
        (formula.expanded settings.expansion).program.length] := by
  rw [expand, Interpretation.run_program, (formula.expanded settings.expansion).length_program]
  exact (expansionReading_tells hwithin).bind ((tells_pure _).after_tell _)

theorem expand_tells_refusal (hpast : formula.overrun? settings 0 = some position) :
    ∃ left right, formula.program.ExclusiveAt position left right ∧
      Tells (formula.program.expand settings)
        (.error (.query (.tooLarge settings.maxInstructions position)))
        [.expansionRefused position (left.checkedSize settings.expansion right)
          settings.maxInstructions] := by
  obtain ⟨offset, left, right, hposition, hoperands, hrefused⟩ :=
    expansionReading_tells_refusal hpast
  rw [Nat.zero_add] at hposition
  subst hposition
  rw [expand, Interpretation.run_program]
  exact ⟨left, right, hoperands, hrefused.bind_error _⟩

/-! ## Evaluating -/

variable {catalog : Catalog}

theorem selection_tells {condition : Condition}
    (hcolumn : ∀ column ∈ condition.column?, catalog.hasColumn column = true) :
    Tells (selection catalog condition) (.ok (condition.selected catalog))
      (condition.miss? catalog).toList := by
  cases condition with
  | text condition | number condition | flag condition =>
      have hhas := hcolumn condition.column rfl
      simp only [selection, Condition.selected, Condition.select, Condition.selectColumn, hhas]
      exact tells_pure _
  | label kind condition =>
      simp only [selection, Condition.selected, Condition.select, LabelCondition.select,
        Condition.miss?]
      by_cases hlabel : catalog.hasLabel kind condition.value = true
      · simp only [if_pos hlabel]
        exact tells_pure _
      · simp only [if_neg hlabel]
        exact (tells_pure _).after_tell _

theorem misses_append (first second : Program) :
    misses (first ++ second) catalog = first.misses catalog ++ second.misses catalog :=
  List.filterMap_append

theorem misses_append_operator (program : Program) (operator : Operator) :
    misses (program ++ [.operator operator]) catalog = program.misses catalog := by
  rw [misses_append]
  exact List.append_nil _

theorem misses_negatedIf (formula : Formula) (inverted : Bool) :
    (formula.negatedIf inverted).program.misses catalog = formula.program.misses catalog := by
  cases inverted <;> simp [Formula.negatedIf, misses_append_operator]

/-- Evaluating tells the labels that nothing carries in the order of the program. -/
theorem exclusiveReading_tells {position : Nat}
    (hcolumns : ∀ column ∈ formula.program.reads, catalog.hasColumn column = true) :
    Tells ((exclusiveReading catalog).value position formula) (.ok (formula.selected catalog))
      (formula.program.misses catalog) := by
  induction formula generalizing position with
  | leaf condition =>
      have hmisses : (Formula.leaf condition).program.misses catalog =
          (condition.miss? catalog).toList := by
        cases hmiss : condition.miss? catalog <;> simp [misses, Instruction.condition?, hmiss]
      rw [hmisses]
      refine selection_tells fun column hcolumn => hcolumns column ?_
      simpa [reads, Instruction.condition?] using hcolumn
  | negation operand ih =>
      rw [Formula.reads_negation] at hcolumns
      rw [Formula.program_negation, misses_append_operator]
      exact (ih hcolumns).map fun members => IdSet.complement members catalog.ids
  | join junction left right ihLeft ihRight =>
      rw [Formula.reads_join, List.forall_mem_append] at hcolumns
      have hown : Tells ((exclusiveReading catalog).combine junction
          (position + left.size + right.size) (left.selected catalog) (right.selected catalog))
            (.ok ((Formula.join junction left right).selected catalog)) [] := by
        cases junction <;> exact tells_pure _
      rw [Formula.program_join, misses_append_operator, misses_append,
        ← List.append_nil (right.program.misses catalog)]
      exact (ihLeft hcolumns.1).bind ((ihRight hcolumns.2).bind hown)

theorem evaluate_tells (inverted : Bool) (hfree : XorFree formula.program)
    (hcolumns : ∀ column ∈ formula.program.reads, catalog.hasColumn column = true) :
    Tells (formula.program.evaluate catalog inverted)
      (.ok ((formula.negatedIf inverted).selected catalog))
      (formula.program.misses catalog ++ [.programEvaluated formula.program.length inverted
        ((formula.negatedIf inverted).selected catalog).size]) := by
  have hreads : ∀ column ∈ (formula.negatedIf inverted).program.reads,
      catalog.hasColumn column = true := by
    cases inverted with
    | false => exact hcolumns
    | true =>
        rw [Formula.negatedIf, if_pos rfl, Formula.reads_negation]
        exact hcolumns
  rw [evaluate_eq catalog formula inverted hfree, ← misses_negatedIf formula inverted]
  exact ((exclusiveReading_tells hreads).tryCatch _).before_tell _

end Program

namespace Query

variable {settings : Settings} {query : Query} {catalog : Catalog}

/-! ## Compiling and executing -/

/-- What is told of a query that compiles, by its expression, the program of that and the one
that is written out. -/
def compiledEvents (query : Query) (emitted : List Symbol) (program expanded : Program) :
    List Event :=
  [.symbolsEmitted query.nodes.length emitted.length,
    .programBuilt emitted.length program.length,
    .expanded (exclusionsAmong query.nodes) program.length expanded.length,
    .planCompiled (program.filterMap Instruction.condition?).length emitted.length
      expanded.length query.inverted]

theorem emit_tells {emitted : List Symbol} (hsymbols : symbols settings query.nodes = .ok emitted) :
    Tells (emit settings query.nodes) (.ok emitted)
      [.symbolsEmitted query.nodes.length emitted.length] := by
  rw [emit, hsymbols]
  exact (tells_pure _).after_tell _

theorem build_tells {emitted : List Symbol} {program : Program}
    (hprogram : Program.ofSymbols emitted = .ok program) :
    Tells (Program.build emitted) (.ok program) [.programBuilt emitted.length program.length] := by
  rw [Program.build, hprogram]
  exact (tells_pure _).after_tell _

section Derived

variable {emitted : List Symbol} {formula : Formula} (hleaves : query.leafCount ≠ 0)
  (hsymbols : symbols settings query.nodes = .ok emitted)
  (hderives : Derives .expression emitted formula)

include hleaves hsymbols hderives

theorem compile_tells (hwithin : formula.overrun? settings 0 = none) :
    Tells (query.compile settings) (.ok (planOf settings query formula))
      (query.compiledEvents emitted formula.program
        (formula.expanded settings.expansion).program) := by
  rw [compile, if_neg hleaves, compiledEvents, ← countP_isXor_program hsymbols hderives,
    ← leafCount_eq_length_conditions hsymbols hderives]
  exact (emit_tells hsymbols).bind ((build_tells (Arrangement.ofSymbols_of_derives hderives)).bind
    ((Program.expand_tells hwithin).bind ((tells_pure _).after_tell _)))

end Derived

/-- How running a query goes: what it ends in, and all that is told on the way. -/
inductive Course (settings : Settings) (query : Query) (catalog : Catalog) :
    Except Fault IdSet → List Event → Prop where
  /-- A leaf or a link has a defect. -/
  | refused {fault : QueryFault} (hsymbols : symbols settings query.nodes = .error fault) :
      Course settings query catalog (.error (.query fault)) []
  /-- The expression cannot be read. -/
  | unread {emitted : List Symbol} {fault : StructureFault}
      (hsymbols : symbols settings query.nodes = .ok emitted)
      (hprogram : Program.ofSymbols emitted = .error fault) :
      Course settings query catalog (.error (.query (.structural fault)))
        [.symbolsEmitted query.nodes.length emitted.length]
  /-- An exclusive disjunction is past the limit. -/
  | tooLarge {emitted : List Symbol} {program : Program} {position : Nat} {left right : Formula}
      (hsymbols : symbols settings query.nodes = .ok emitted)
      (hprogram : Program.ofSymbols emitted = .ok program)
      (hfirst : program.FirstPast (Formula.checkedSize settings.expansion)
        settings.maxInstructions position)
      (hoperands : program.ExclusiveAt position left right) :
      Course settings query catalog (.error (.query (.tooLarge settings.maxInstructions position)))
        [.symbolsEmitted query.nodes.length emitted.length,
          .programBuilt emitted.length program.length,
          .expansionRefused position (left.checkedSize settings.expansion right)
            settings.maxInstructions]
  /-- The catalog lacks a column that a leaf reads. -/
  | unknown {emitted : List Symbol} {program expanded : Program} {column : String}
      (hsymbols : symbols settings query.nodes = .ok emitted)
      (hprogram : Program.ofSymbols emitted = .ok program)
      (hexpanded : (program.expand settings).outcome.1 = .ok expanded)
      (hcolumn : catalog.LeastMissing (query.leafColumns settings) column) :
      Course settings query catalog (.error (.name (.unknownColumn column)))
        (query.compiledEvents emitted program expanded ++ [.unknownColumn column])
  /-- The query selects entities. -/
  | selected {emitted : List Symbol} {program expanded : Program} {members : IdSet}
      (hsymbols : symbols settings query.nodes = .ok emitted)
      (hprogram : Program.ofSymbols emitted = .ok program)
      (hexpanded : (program.expand settings).outcome.1 = .ok expanded)
      (hcolumns : ∀ column ∈ query.leafColumns settings, catalog.hasColumn column = true) :
      Course settings query catalog (.ok members)
        (query.compiledEvents emitted program expanded ++ (expanded.misses catalog ++
          [.programEvaluated expanded.length query.inverted members.size]))

/-- A run goes its course with every fault and every event that belongs to it and no other. -/
theorem Course.of_tells {result : Except Fault IdSet} {events : List Event}
    (hcourse : Course settings query catalog result events)
    (htells : Tells (query.run settings catalog) result events) :
    Course settings query catalog (query.run settings catalog).outcome.1
      (query.run settings catalog).outcome.2 := by
  rw [htells.outcome]
  exact hcourse

/-- A plan that was compiled tells of the first column that is missing, or of its evaluation. -/
theorem course_of_compile {emitted : List Symbol} {formula : Formula}
    (hleaves : query.leafCount ≠ 0) (hsymbols : symbols settings query.nodes = .ok emitted)
    (hderives : Derives .expression emitted formula)
    (hwithin : formula.overrun? settings 0 = none) :
    Course settings query catalog (query.run settings catalog).outcome.1
      (query.run settings catalog).outcome.2 := by
  have hprogram := Arrangement.ofSymbols_of_derives hderives
  have hexpanded := congrArg Prod.fst (Program.expand_tells hwithin).outcome
  have hcompile := compile_tells hleaves hsymbols hderives hwithin
  have hreads := mem_reads_of_compile (congrArg Prod.fst hcompile.outcome)
  cases hmissing : (planOf settings query formula).missingColumn? catalog with
  | some column =>
      have hvalidate : Tells ((planOf settings query formula).validate catalog)
          (.error (.name (.unknownColumn column))) [.unknownColumn column] := by
        rw [Plan.validate, hmissing]
        exact (tells_throw _).after_tell _
      exact (Course.unknown hsymbols hprogram hexpanded
        (Plan.leastMissing_of_missingColumn? hreads hmissing)).of_tells
          (hcompile.bind (hvalidate.bind_error _))
  | none =>
      have hvalidate : Tells ((planOf settings query formula).validate catalog) (.ok ()) [] := by
        rw [Plan.validate, hmissing]
        exact tells_pure _
      have hcolumns := Plan.missingColumn?_eq_none_iff.mp hmissing
      have hevaluate := Program.evaluate_tells query.inverted
        (formula.xorFree_expanded settings.expansion) hcolumns
      exact (Course.selected hsymbols hprogram hexpanded fun column hcolumn =>
        hcolumns column ((hreads column).mpr hcolumn)).of_tells
          (hcompile.bind (hvalidate.bind hevaluate))

/-- Running a query with a leaf tells what each stage has come to, in the order of the stages: up
to the one that refuses it, or with every label that nothing carries to the size of the
selection.  The stages agree in their sizes, and these in the tree of the query. -/
theorem run_course (settings : Settings) (query : Query) (catalog : Catalog)
    (hleaves : 1 ≤ query.leafCount) :
    Course settings query catalog (query.run settings catalog).outcome.1
      (query.run settings catalog).outcome.2 := by
  have hne : query.leafCount ≠ 0 := Nat.ne_of_gt hleaves
  cases hsymbols : symbols settings query.nodes with
  | error fault =>
      have hemit : Tells (emit settings query.nodes) (.error (.query fault)) [] := by
        rw [emit, hsymbols]
        exact tells_throw _
      have hcompile : Tells (query.compile settings) (.error (.query fault)) [] := by
        rw [compile, if_neg hne]
        exact hemit.bind_error _
      exact (Course.refused hsymbols).of_tells (hcompile.bind_error _)
  | ok emitted =>
      cases hprogram : Program.ofSymbols emitted with
      | error fault =>
          have hbuild : Tells (Program.build emitted) (.error (.query (.structural fault))) [] := by
            rw [Program.build, hprogram]
            exact tells_throw _
          have hcompile : Tells (query.compile settings) (.error (.query (.structural fault)))
              [.symbolsEmitted query.nodes.length emitted.length] := by
            rw [compile, if_neg hne]
            exact (emit_tells hsymbols).bind (hbuild.bind_error _)
          exact (Course.unread hsymbols hprogram).of_tells (hcompile.bind_error _)
      | ok program =>
          obtain ⟨formula, hderives, rfl⟩ := Arrangement.derives_of_ofSymbols hprogram
          cases hoverrun : formula.overrun? settings 0 with
          | none => exact course_of_compile hne hsymbols hderives hoverrun
          | some position =>
              obtain ⟨offset, hposition, hfirst⟩ := Formula.firstPast_of_overrun? hoverrun
              obtain ⟨left, right, hoperands, hexpand⟩ := Program.expand_tells_refusal hoverrun
              rw [Nat.zero_add] at hposition
              subst hposition
              have hcompile : Tells (query.compile settings)
                  (.error (.query (.tooLarge settings.maxInstructions position)))
                  [.symbolsEmitted query.nodes.length emitted.length,
                    .programBuilt emitted.length formula.program.length,
                    .expansionRefused position (left.checkedSize settings.expansion right)
                      settings.maxInstructions] := by
                rw [compile, if_neg hne]
                exact (emit_tells hsymbols).bind
                  ((build_tells hprogram).bind (hexpand.bind_error _))
              exact (Course.tooLarge hsymbols hprogram hfirst hoperands).of_tells
                (hcompile.bind_error _)

/-- The tag that nothing carries is asked for twice once the exclusive disjunction is written out;
and nine instructions are not enough for that. -/
theorem run_course_scoreOrNoFan :
    1 ≤ scoreOrNoFan.leafCount ∧
      Course (scoreSettings .complement) scoreOrNoFan ratingsAndFans
        (.ok (Ascending.ofList [7, 8]))
        [.symbolsEmitted 2 8, .programBuilt 8 6, .expanded 1 6 15, .planCompiled 3 8 15 true,
          .labelMissed .tag "gone", .labelMissed .tag "gone", .programEvaluated 15 true 2] ∧
      Course nineInstructions scoreOrNoFan ratingsAndFans
        (.error (.query (.tooLarge 9 5)))
        [.symbolsEmitted 2 8, .programBuilt 8 6, .expansionRefused 5 15 9] := by
  have hleaves : 1 ≤ scoreOrNoFan.leafCount := by decide
  exact ⟨hleaves, run_course (scoreSettings .complement) scoreOrNoFan ratingsAndFans hleaves,
    run_course nineInstructions scoreOrNoFan ratingsAndFans hleaves⟩

end Query

end FacetFilter
