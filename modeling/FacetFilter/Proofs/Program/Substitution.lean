import FacetFilter.Plan
import FacetFilter.Program.Expansion
import FacetFilter.Program.Symbol

/-!
# Other conditions in the same places

Reading an expression, writing out its exclusive disjunctions and evaluating its
program treat conditions as letters.  When each condition is changed into another,
every stage gives what it gave before with the conditions changed, as long as it
cannot tell them apart by what it looks at: their words, their flips, their columns
and what they select.
-/

namespace FacetFilter

/-- The instruction with its condition changed. -/
def Instruction.substitute (change : Condition → Condition) : Instruction → Instruction
  | .leaf condition => .leaf (change condition)
  | .operator operation => .operator operation

def Symbol.substitute (change : Condition → Condition) : Symbol → Symbol
  | .leaf condition => .leaf (change condition)
  | .operator operation => .operator operation
  | .opening => .opening
  | .closing => .closing

theorem Symbol.substitute_id : Symbol.substitute id = id := by
  funext symbol
  cases symbol <;> rfl

def Program.substitute (change : Condition → Condition) (program : Program) : Program :=
  program.map (Instruction.substitute change)

variable {change : Condition → Condition}

/-! ## Reading expressions -/

namespace Arrangement

def substitute (change : Condition → Condition) (state : Arrangement) : Arrangement :=
  { state with output := state.output.substitute change }

theorem release_substitute (junction : Junction) (output : Program) (pending : List Pending) :
    release junction (output.substitute change) pending =
      Prod.map (Program.substitute change) id (release junction output pending) := by
  induction pending generalizing output with
  | nil => rfl
  | cons entry pending ih =>
      cases entry with
      | opening position => rfl
      | operator top =>
          have hput := ih (.operator top :: output)
          rw [release, release]
          split
          · exact hput
          · rfl

theorem closeGroup_substitute (position : Nat) (output : Program) (pending : List Pending) :
    closeGroup position (output.substitute change) pending =
      Prod.map (Program.substitute change) id <$> closeGroup position output pending := by
  induction pending generalizing output with
  | nil => rfl
  | cons entry pending ih =>
      cases entry with
      | opening position => rfl
      | operator top => exact ih (.operator top :: output)

theorem drain_substitute (output : Program) (pending : List Pending) :
    drain (output.substitute change) pending =
      Program.substitute change <$> drain output pending := by
  induction pending generalizing output with
  | nil => exact congrArg Except.ok List.map_reverse.symm
  | cons entry pending ih =>
      cases entry with
      | opening position => rfl
      | operator top => exact ih (.operator top :: output)

theorem finish_substitute (state : Arrangement) (count : Nat) :
    (state.substitute change).finish count =
      Program.substitute change <$> state.finish count := by
  obtain ⟨output, pending, expectsOperand⟩ := state
  rcases expectsOperand with _ | _
  · exact drain_substitute output pending
  · rcases pending with _ | ⟨_ | _, pending⟩
    · exact drain_substitute output []
    · rfl
    · rfl

section Rendered

variable (hrender : ∀ condition, (change condition).render = condition.render)

include hrender

theorem accept_substitute (state : Arrangement) (position : Nat) (symbol : Symbol) :
    (state.substitute change).accept position (symbol.substitute change) =
      substitute change <$> state.accept position symbol := by
  obtain ⟨output, pending, expectsOperand⟩ := state
  cases expectsOperand with
  | true => rcases symbol with _ | (_ | _) | _ | _ <;> rfl
  | false =>
      rcases symbol with condition | (_ | junction) | _ | _
      · simp only [accept, substitute, Symbol.substitute, Symbol.render, hrender]
        rfl
      · rfl
      · simp only [accept, substitute, Symbol.substitute, release_substitute]
        rfl
      · rfl
      · simp only [accept, substitute, Symbol.substitute, closeGroup_substitute]
        cases closeGroup position output pending <;> rfl

theorem acceptAll_substitute (state : Arrangement) (position : Nat) (symbols : List Symbol) :
    (state.substitute change).acceptAll position (symbols.map (Symbol.substitute change)) =
      substitute change <$> state.acceptAll position symbols := by
  induction symbols generalizing state position with
  | nil => rfl
  | cons symbol symbols ih =>
      rw [List.map_cons, acceptAll, acceptAll, accept_substitute hrender]
      cases state.accept position symbol with
      | error fault => rfl
      | ok state => exact ih state (position + 1)

end Rendered

end Arrangement

/-- Reading looks at no condition, and words are all that it tells of one. -/
theorem Program.ofSymbols_substitute
    (hrender : ∀ condition, (change condition).render = condition.render)
    (symbols : List Symbol) :
    ofSymbols (symbols.map (Symbol.substitute change)) =
      substitute change <$> ofSymbols symbols := by
  cases symbols with
  | nil => rfl
  | cons symbol symbols =>
      have haccept := Arrangement.acceptAll_substitute hrender .start 0 (symbol :: symbols)
      have hstart : Arrangement.start.substitute change = .start := rfl
      rw [hstart] at haccept
      rw [ofSymbols, ofSymbols, haccept, if_neg (by simp), if_neg (by simp), List.length_map]
      cases Arrangement.start.acceptAll 0 (symbol :: symbols) with
      | error fault => rfl
      | ok state => exact state.finish_substitute _

/-! ## Performing programs -/

namespace Interpretation

variable {α β : Type}

/-- Two readings of a junction refuse it with one fault, or commute with carrying its operands. -/
inductive CarriesJoin (carry : α → β) : Except MachineFault (α → α → Journaled α) →
    Except MachineFault (β → β → Journaled β) → Prop
  | refused (fault : MachineFault) : CarriesJoin carry (.error fault) (.error fault)
  | joined {operation : α → α → Journaled α} {operation' : β → β → Journaled β}
      (hcommutes : ∀ left right,
        operation' (carry left) (carry right) = carry <$> operation left right) :
      CarriesJoin carry (.ok operation) (.ok operation')

/-- What one reading makes of the conditions, the other makes of the changed ones. -/
structure Carries (change : Condition → Condition) (carry : α → β)
    (reading : Interpretation α) (other : Interpretation β) : Prop where
  leaf : ∀ condition, other.leaf (change condition) = carry <$> reading.leaf condition
  negation : ∀ value, other.negation (carry value) = carry (reading.negation value)
  join : ∀ junction position,
    CarriesJoin carry (reading.join junction position) (other.join junction position)

variable {carry : α → β} {reading : Interpretation α} {other : Interpretation β}

theorem Carries.step (hcarries : Carries change carry reading other) (position : Nat)
    (stack : List α) (instruction : Instruction) :
    other.step position (stack.map carry) (instruction.substitute change) =
      List.map carry <$> reading.step position stack instruction := by
  rcases instruction with condition | (_ | junction)
  · simp [Instruction.substitute, Interpretation.step, hcarries.leaf]
  · cases stack with
    | nil => rfl
    | cons operand stack => simp [Instruction.substitute, Interpretation.step, hcarries.negation]
  · have hjoin := hcarries.join junction position
    simp only [Instruction.substitute, Interpretation.step]
    generalize reading.join junction position = own, other.join junction position = others
      at hjoin
    cases hjoin with
    | refused fault => rfl
    | joined hcommutes =>
        rcases stack with _ | ⟨right, _ | ⟨left, stack⟩⟩
        · rfl
        · rfl
        · simp [hcommutes]

theorem Carries.perform (hcarries : Carries change carry reading other) (program : Program)
    (position : Nat) (stack : List α) :
    other.perform position (stack.map carry) (program.substitute change) =
      List.map carry <$> reading.perform position stack program := by
  induction program generalizing position stack with
  | nil => rfl
  | cons instruction program ih =>
      have hstep := hcarries.step position stack instruction
      rw [Interpretation.perform, map_bind]
      simp only [← ih]
      rw [Program.substitute, List.map_cons, Interpretation.perform, hstep, bind_map_left]
      rfl

/-- A reading carried along by each instruction is carried along by a run. -/
theorem Carries.run (hcarries : Carries change carry reading other) (program : Program) :
    other.run (program.substitute change) = carry <$> reading.run program := by
  have hperform := hcarries.perform program 0 []
  rw [List.map_nil] at hperform
  rw [Interpretation.run, Interpretation.run, hperform, map_bind, bind_map_left]
  congr 1
  funext stack
  rcases stack with _ | ⟨value, _ | ⟨second, stack⟩⟩ <;> simp

end Interpretation

/-! ## Writing out exclusive disjunctions -/

namespace Formula

def substitute (change : Condition → Condition) : Formula → Formula
  | .leaf condition => .leaf (change condition)
  | .negation operand => .negation (operand.substitute change)
  | .join junction left right =>
      .join junction (left.substitute change) (right.substitute change)

theorem size_substitute (formula : Formula) : (formula.substitute change).size = formula.size := by
  induction formula with
  | leaf condition => rfl
  | negation operand ih => rw [substitute, size, size, ih]
  | join junction left right ihLeft ihRight => rw [substitute, size, size, ihLeft, ihRight]

theorem listOnto_substitute (formula : Formula) (rest : Program) :
    (formula.substitute change).listOnto (rest.substitute change) =
      (formula.listOnto rest).substitute change := by
  induction formula generalizing rest with
  | leaf condition => rfl
  | negation operand ih => exact ih (.operator .not :: rest)
  | join junction left right ihLeft ihRight =>
      have hright := ihRight (.operator (.join junction) :: rest)
      exact (congrArg _ hright).trans (ihLeft _)

end Formula

namespace Operand

def substitute (change : Condition → Condition) (operand : Operand) : Operand where
  formula := operand.formula.substitute change
  size := operand.size
  size_eq := by rw [Formula.size_substitute, operand.size_eq]

theorem opposite_substitute
    (hflip : ∀ condition, (change condition).flip = change condition.flip)
    (expansion : Expansion) (operand : Operand) :
    (operand.substitute change).opposite expansion =
      (operand.opposite expansion).substitute change := by
  obtain ⟨formula, size, hsize⟩ := operand
  cases expansion with
  | complement => rfl
  | flipLeaves =>
      cases formula with
      | leaf condition =>
          have hleaf := hflip condition
          simp [opposite, substitute, ofCondition, Formula.substitute, hleaf]
      | negation | join => rfl

end Operand

namespace Program

theorem expansionReading_carries
    (hflip : ∀ condition, (change condition).flip = change condition.flip) (settings : Settings) :
    Interpretation.Carries change (Operand.substitute change) (expansionReading settings)
      (expansionReading settings) where
  leaf _ := rfl
  negation _ := rfl
  join junction position := by
    refine .joined fun left right => ?_
    cases junction with
    | and | or => rfl
    | xor =>
        have hleft := left.opposite_substitute hflip settings.expansion
        have hright := right.opposite_substitute hflip settings.expansion
        have hprojected : (left.substitute change).projectedSize (right.substitute change) =
            left.projectedSize right := rfl
        have hexclusive : (left.substitute change).exclusive settings.expansion
            (right.substitute change) =
              (left.exclusive settings.expansion right).substitute change := by
          rw [Operand.exclusive, hleft, hright]
          rfl
        simp only [hprojected, hexclusive]
        split <;> simp

/-- Writing out looks at no condition but to flip it. -/
theorem expand_substitute
    (hflip : ∀ condition, (change condition).flip = change condition.flip) (settings : Settings)
    (program : Program) :
    (program.substitute change).expand settings =
      substitute change <$> program.expand settings := by
  have hcount : (program.substitute change).countP Instruction.isXor =
      program.countP Instruction.isXor := by
    rw [substitute, List.countP_map]
    apply List.countP_congr
    rintro (condition | operation) - <;> rfl
  have hlength : (program.substitute change).length = program.length := List.length_map _
  have hlisting : ∀ formula : Formula, (formula.substitute change).program =
      formula.program.substitute change :=
    fun formula => formula.listOnto_substitute []
  rw [expand, expand, (expansionReading_carries hflip settings).run, hcount, hlength]
  simp [hlisting, Operand.substitute]

/-! ## Evaluating programs -/

theorem evaluationReading_carries {catalog : Catalog}
    (hselect : ∀ condition, (change condition).select catalog = condition.select catalog) :
    Interpretation.Carries change id (evaluationReading catalog) (evaluationReading catalog) where
  leaf condition := by
    simp only [evaluationReading, selection, hselect, id_map]
  negation _ := rfl
  join junction position := by
    cases junction with
    | and | or => exact .joined fun _ _ => rfl
    | xor => exact .refused _

/-- Evaluating looks at what conditions select and at nothing else. -/
theorem evaluate_substitute {catalog : Catalog}
    (hselect : ∀ condition, (change condition).select catalog = condition.select catalog)
    (program : Program) (inverted : Bool) :
    (program.substitute change).evaluate catalog inverted = program.evaluate catalog inverted := by
  have hempty : (program.substitute change).isEmpty = program.isEmpty := List.isEmpty_map
  have hlength : (program.substitute change).length = program.length := List.length_map _
  have hwhole : (if inverted then program.substitute change ++ [.operator .not]
      else program.substitute change) =
        (if inverted then program ++ [.operator .not] else program).substitute change := by
    cases inverted <;> simp [substitute, Instruction.substitute]
  rw [evaluate, evaluate, hempty]
  simp only [hwhole, hlength, (evaluationReading_carries hselect).run, id_map]

end Program

namespace Plan

def substitute (change : Condition → Condition) (plan : Plan) : Plan :=
  { plan with program := plan.program.substitute change }

theorem render_substitute (hrender : ∀ condition, (change condition).render = condition.render)
    (plan : Plan) : (plan.substitute change).render = plan.render := by
  have hempty : (plan.substitute change).selectsAll = plan.selectsAll := List.isEmpty_map
  have hwords : (plan.substitute change).program.map Instruction.render =
      plan.program.map Instruction.render := by
    rw [substitute, Program.substitute, List.map_map]
    apply List.map_congr_left
    rintro (condition | operation) -
    · exact hrender condition
    · rfl
  rw [render, render, hempty, hwords]
  rfl

theorem columns_substitute (hcolumn : ∀ condition, (change condition).column? = condition.column?)
    (plan : Plan) : (plan.substitute change).columns = plan.columns := by
  have hread : (fun instruction : Instruction => instruction.condition?.bind Condition.column?) ∘
      Instruction.substitute change =
        fun instruction => instruction.condition?.bind Condition.column? := by
    funext instruction
    cases instruction with
    | leaf condition => exact hcolumn condition
    | operator operation => rfl
  rw [columns, columns, Program.columns, Program.columns, substitute, Program.substitute,
    List.filterMap_map, hread]

theorem execute_substitute (hcolumn : ∀ condition, (change condition).column? = condition.column?)
    {catalog : Catalog}
    (hselect : ∀ condition, (change condition).select catalog = condition.select catalog)
    (plan : Plan) : (plan.substitute change).execute catalog = plan.execute catalog := by
  have hvalidate : (plan.substitute change).validate catalog = plan.validate catalog := by
    rw [validate, validate, missingColumn?, missingColumn?, columns_substitute hcolumn]
  rw [execute, execute, hvalidate]
  exact congrArg (plan.validate catalog >>= ·)
    (funext fun _ => Program.evaluate_substitute hselect plan.program plan.inverted)

end Plan

end FacetFilter
