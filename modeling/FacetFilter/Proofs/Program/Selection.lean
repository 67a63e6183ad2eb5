import FacetFilter.Program.Evaluation
import FacetFilter.Proofs.Journal
import FacetFilter.Proofs.Membership
import FacetFilter.Proofs.Program.Interpretation

/-!
# Selections of formulas

A formula selects a set of entities in every catalog that has its columns: that
of its conditions, joined by the operations on sets.  Evaluating its program
gives this set, or names the first column that the catalog does not have.
-/

namespace FacetFilter

open Journaled

/-- What a condition selects inside a program, where a label that no entity carries selects
nothing. -/
def Condition.selected (condition : Condition) (catalog : Catalog) : IdSet :=
  match condition.select catalog with
  | .ok members => members
  | .error _ => .empty

/-- The operation on sets that a junction stands for. -/
def Junction.onSets : Junction → IdSet → IdSet → IdSet
  | .and => IdSet.inter
  | .or => IdSet.union
  | .xor => IdSet.symmDiff

/-- The formula, negated where `inverted`. -/
def Formula.negatedIf (inverted : Bool) (formula : Formula) : Formula :=
  if inverted then .negation formula else formula

/-- The entities that a formula selects. -/
def Formula.selected (catalog : Catalog) : Formula → IdSet
  | .leaf condition => condition.selected catalog
  | .negation operand => IdSet.complement (operand.selected catalog) catalog.ids
  | .join junction left right =>
      junction.onSets (left.selected catalog) (right.selected catalog)

theorem Condition.select_of_column {condition : Condition} {column : String}
    (hcolumn : condition.column? = some column) (catalog : Catalog) :
    ∃ accepts, condition.select catalog = selectColumn column accepts catalog := by
  cases condition <;> cases hcolumn <;> exact ⟨_, rfl⟩

theorem Condition.select_of_no_column {condition : Condition}
    (hcolumn : condition.column? = none) (catalog : Catalog) :
    (∃ members, condition.select catalog = .ok members) ∨
      ∃ kind label, condition.select catalog = .error (.unknownLabel kind label) := by
  cases condition with
  | text | number | flag => cases hcolumn
  | label kind condition =>
      rw [select, LabelCondition.select]
      split
      · exact .inl ⟨_, rfl⟩
      · exact .inr ⟨_, _, rfl⟩

/-! ## Selections lie within the catalog -/

theorem Catalog.mem_ids_of_mem_idsWhere {catalog : Catalog} {accepts : Record → Bool}
    {id : EntityId} (hmem : id ∈ catalog.idsWhere accepts) : id ∈ catalog.ids := by
  obtain ⟨record, hrecord, hid⟩ := Ascending.mem_keys.mp hmem
  exact Ascending.mem_keys.mpr ⟨record, (Ascending.mem_filter.mp hrecord).1, hid⟩

theorem Condition.selectColumn_subset {column : String} {accepts : FieldValue → Bool}
    {catalog : Catalog} {members : IdSet}
    (hselect : selectColumn column accepts catalog = .ok members) :
    ∀ id ∈ members, id ∈ catalog.ids := by
  rw [selectColumn] at hselect
  split at hselect
  · cases hselect
    exact fun _ => Catalog.mem_ids_of_mem_idsWhere
  · cases hselect

theorem Condition.selected_subset (condition : Condition) (catalog : Catalog) :
    ∀ id ∈ condition.selected catalog, id ∈ catalog.ids := by
  intro id hmem
  rw [selected] at hmem
  split at hmem
  · next members hselect =>
      cases condition with
      | text | number | flag => exact selectColumn_subset hselect id hmem
      | label kind condition =>
          rw [select, LabelCondition.select] at hselect
          split at hselect
          · cases hselect
            exact Catalog.mem_ids_of_mem_idsWhere hmem
          · cases hselect
  · exact absurd hmem (Ascending.not_mem_empty id)

theorem Formula.selected_subset (formula : Formula) (catalog : Catalog) :
    ∀ id ∈ formula.selected catalog, id ∈ catalog.ids := by
  induction formula with
  | leaf condition => exact condition.selected_subset catalog
  | negation operand ih =>
      intro id hmem
      exact (IdSet.mem_complement.mp hmem).1
  | join junction left right ihLeft ihRight =>
      intro id hmem
      cases junction with
      | and => exact ihLeft id (IdSet.mem_inter.mp hmem).1
      | or => exact (IdSet.mem_union.mp hmem).elim (ihLeft id) (ihRight id)
      | xor =>
          rcases IdSet.mem_symmDiff.mp hmem with hmem | hmem
          · exact ihLeft id hmem.1
          · exact ihRight id hmem.2

/-! ## Columns that are not there -/

namespace Program

/-- The columns that the conditions of a program read, in its order and with repetitions. -/
def reads (program : Program) : List String :=
  program.filterMap fun instruction => instruction.condition?.bind Condition.column?

theorem reads_append (first second : Program) :
    reads (first ++ second) = first.reads ++ second.reads :=
  List.filterMap_append

/-- The first column in the order of the program that the catalog does not have. -/
def missing? (program : Program) (catalog : Catalog) : Option String :=
  program.reads.find? fun column => !catalog.hasColumn column

/-- The fault of a program that reads a column that the catalog does not have. -/
def columnFault? (program : Program) (catalog : Catalog) : Option Fault :=
  (program.missing? catalog).map fun column => .name (.unknownColumn column)

theorem columnFault?_append (first second : Program) (catalog : Catalog) :
    columnFault? (first ++ second) catalog =
      (first.columnFault? catalog).or (second.columnFault? catalog) := by
  rw [columnFault?, missing?, reads_append, List.find?_append, Option.map_or]
  rfl

theorem columnFault?_append_operator (program : Program) (operator : Operator)
    (catalog : Catalog) :
    columnFault? (program ++ [.operator operator]) catalog = program.columnFault? catalog := by
  rw [columnFault?_append]
  exact Option.or_none

end Program

/-! ## Evaluation -/

namespace Program

variable (catalog : Catalog)

theorem selection_yields (condition : Condition) :
    Yields (selection catalog condition)
      (settle (columnFault? [.leaf condition] catalog) (condition.selected catalog)) := by
  rw [selection, Condition.selected]
  cases hcolumn : condition.column? with
  | some column =>
      obtain ⟨accepts, hselect⟩ := condition.select_of_column hcolumn catalog
      rw [hselect, Condition.selectColumn]
      by_cases hhas : catalog.hasColumn column
      · have hfault : columnFault? [.leaf condition] catalog = none := by
          simp [columnFault?, missing?, reads, Instruction.condition?, hcolumn, hhas]
        rw [if_pos hhas, hfault]
        exact yields_pure _
      · have hfault : columnFault? [.leaf condition] catalog =
            some (.name (.unknownColumn column)) := by
          simp [columnFault?, missing?, reads, Instruction.condition?, hcolumn, hhas]
        rw [if_neg hhas, hfault]
        exact yields_throw _
  | none =>
      have hfault : columnFault? [.leaf condition] catalog = none := by
        simp [columnFault?, missing?, reads, Instruction.condition?, hcolumn]
      rw [hfault]
      rcases condition.select_of_no_column hcolumn catalog with
        ⟨members, hselect⟩ | ⟨kind, label, hselect⟩
      · rw [hselect]
        exact yields_pure _
      · rw [hselect]
        exact (yields_pure _).after_tell _

/-- Evaluation in which an exclusive disjunction is the symmetric difference. -/
def exclusiveReading (catalog : Catalog) : Interpretation IdSet :=
  { evaluationReading catalog with
    join := fun junction position =>
      match junction with
      | .xor => .ok fun left right => pure (IdSet.symmDiff left right)
      | other => (evaluationReading catalog).join other position }

theorem exclusiveReading_yields (formula : Formula) (position : Nat) :
    Yields ((exclusiveReading catalog).value position formula)
      (settle (formula.program.columnFault? catalog) (formula.selected catalog)) := by
  induction formula generalizing position with
  | leaf condition => exact selection_yields catalog condition
  | negation operand ih =>
      rw [Formula.program_negation, columnFault?_append_operator]
      have hmap := (ih position).map fun members => IdSet.complement members catalog.ids
      rwa [map_settle] at hmap
  | join junction left right ihLeft ihRight =>
      rw [Formula.program_join, columnFault?_append_operator, columnFault?_append]
      rw [← Option.or_none (o := right.program.columnFault? catalog)]
      refine (ihLeft position).bind_settle ((ihRight _).bind_settle ?_)
      cases junction <;> exact yields_pure _

/-- No instruction of the program is an exclusive disjunction. -/
def XorFree (program : Program) : Prop :=
  ∀ instruction ∈ program, instruction.isXor = false

instance (program : Program) : Decidable program.XorFree :=
  inferInstanceAs (Decidable (∀ instruction ∈ program, instruction.isXor = false))

theorem xorFree_of_negation {operand : Formula} (hfree : XorFree (Formula.negation operand).program) :
    XorFree operand.program := by
  intro instruction hmem
  exact hfree instruction (by simp [hmem])

theorem xorFree_of_join {junction : Junction} {left right : Formula}
    (hfree : XorFree (Formula.join junction left right).program) :
    XorFree left.program ∧ XorFree right.program ∧ junction ≠ .xor := by
  refine ⟨fun instruction hmem => hfree instruction (by simp [hmem]),
    fun instruction hmem => hfree instruction (by simp [hmem]), ?_⟩
  rintro rfl
  exact absurd (hfree (.operator (.join .xor)) (by simp)) (by decide)

/-- Where there is no exclusive disjunction, none is refused. -/
theorem evaluationReading_eq (formula : Formula) (position : Nat)
    (hfree : XorFree formula.program) :
    (evaluationReading catalog).value position formula =
      (exclusiveReading catalog).value position formula := by
  induction formula generalizing position with
  | leaf condition => rfl
  | negation operand ih =>
      rw [Interpretation.value, Interpretation.value, ih position (xorFree_of_negation hfree)]
      rfl
  | join junction left right ihLeft ihRight =>
      obtain ⟨hleft, hright, hjunction⟩ := xorFree_of_join hfree
      rw [Interpretation.value, Interpretation.value, ihLeft _ hleft, ihRight _ hright]
      cases junction with
      | and | or => rfl
      | xor => exact absurd rfl hjunction

theorem reportingViolations_yields {α : Type} {computation : Journaled α}
    {result : Except Fault α} (hyields : Yields computation result) :
    Yields (reportingViolations computation) result := by
  refine hyields.tryCatch fun fault => ?_
  cases fault with
  | machine violation => exact (yields_throw _).after_tell _
  | query | name => exact yields_throw _

/-- The program of a formula without exclusive disjunctions is evaluated by the value of the
formula, an inversion of the whole included. -/
theorem evaluate_eq (formula : Formula) (inverted : Bool) (hfree : XorFree formula.program) :
    formula.program.evaluate catalog inverted =
      reportingViolations ((exclusiveReading catalog).value 0 (formula.negatedIf inverted)) >>=
        fun members =>
          Journaled.tell (.programEvaluated formula.program.length inverted members.size) >>=
            fun _ => pure members := by
  have hwhole : (if inverted then formula.program ++ [.operator .not] else formula.program) =
      (formula.negatedIf inverted).program := by
    cases inverted <;> simp [Formula.negatedIf]
  have hwholeFree : XorFree (formula.negatedIf inverted).program := by
    rw [← hwhole]
    intro instruction hmem
    cases inverted with
    | false => exact hfree instruction hmem
    | true =>
        rcases List.mem_append.mp hmem with hmem | hmem
        · exact hfree instruction hmem
        · rw [List.mem_singleton.mp hmem]
          rfl
  rw [evaluate, if_neg (by simp [formula.program_ne_nil])]
  simp only [hwhole]
  rw [Interpretation.run_program, evaluationReading_eq catalog _ 0 hwholeFree]

theorem columnFault?_negatedIf (formula : Formula) (inverted : Bool) :
    (formula.negatedIf inverted).program.columnFault? catalog =
      formula.program.columnFault? catalog := by
  cases inverted <;> simp [Formula.negatedIf, columnFault?_append_operator]

/-- The value of a formula without exclusive disjunctions, or the column that is missing. -/
theorem evaluate_yields (formula : Formula) (inverted : Bool) (hfree : XorFree formula.program) :
    Yields (formula.program.evaluate catalog inverted)
      (settle (formula.program.columnFault? catalog)
        ((formula.negatedIf inverted).selected catalog)) := by
  rw [evaluate_eq catalog formula inverted hfree, ← columnFault?_negatedIf catalog formula inverted]
  exact (reportingViolations_yields (exclusiveReading_yields catalog _ 0)).before_tell _

/-- Evaluation of programs with exclusive disjunctions, each as a symmetric difference. -/
def evaluateExclusive (program : Program) (catalog : Catalog) : Journaled IdSet :=
  if program.isEmpty then pure catalog.ids
  else reportingViolations ((exclusiveReading catalog).run program)

theorem evaluateExclusive_yields (formula : Formula) :
    Yields (formula.program.evaluateExclusive catalog)
      (settle (formula.program.columnFault? catalog) (formula.selected catalog)) := by
  rw [evaluateExclusive, if_neg (by simp [formula.program_ne_nil]), Interpretation.run_program]
  exact reportingViolations_yields (exclusiveReading_yields catalog formula 0)

end Program

end FacetFilter
