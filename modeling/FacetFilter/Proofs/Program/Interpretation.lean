import FacetFilter.Program.Machine
import FacetFilter.Proofs.Program.Grammar

/-!
# Programs of formulas on the stack machine

Running the program of a formula is reading the formula itself: its value comes on
top of the stack, whatever stood there and whatever follows.  A program leaves
one value, and never looks for an operand in vain, exactly when it lists a formula.
-/

namespace FacetFilter

namespace Interpretation

variable {α : Type}

/-- What an operator does to the values of its operands. -/
def combine (reading : Interpretation α) (junction : Junction) (position : Nat)
    (left right : α) : Journaled α :=
  match reading.join junction position with
  | .error fault => throw (.machine fault)
  | .ok operation => operation left right

/-- The value of a formula whose program begins at `position`. -/
def value (reading : Interpretation α) : Nat → Formula → Journaled α
  | _, .leaf condition => reading.leaf condition
  | position, .negation operand => reading.negation <$> reading.value position operand
  | position, .join junction left right => do
      let leftValue ← reading.value position left
      let rightValue ← reading.value (position + left.size) right
      reading.combine junction (position + left.size + right.size) leftValue rightValue

/-- The program of a formula puts the value of the formula on the stack. -/
theorem perform_listOnto (reading : Interpretation α) (formula : Formula) (position : Nat)
    (stack : List α) (rest : Program) :
    reading.perform position stack (formula.listOnto rest) =
      reading.value position formula >>= fun value =>
        reading.perform (position + formula.size) (value :: stack) rest := by
  induction formula generalizing position stack rest with
  | leaf condition => simp [Formula.listOnto, perform, step, value, Formula.size]
  | negation operand ih =>
      rw [Formula.listOnto, ih, value, Formula.size]
      simp [perform, step, Nat.add_assoc]
  | join junction left right ihLeft ihRight =>
      rw [Formula.listOnto, ihLeft, value, Formula.size]
      simp only [ihRight, perform, step, bind_assoc]
      congr 1
      funext leftValue
      congr 1
      funext rightValue
      simp only [combine, Nat.add_assoc]
      cases reading.join junction (position + (left.size + right.size)) with
      | error fault => rfl
      | ok operation => simp

theorem run_program (reading : Interpretation α) (formula : Formula) :
    reading.run formula.program = reading.value 0 formula := by
  rw [run, Formula.program, perform_listOnto]
  simp [perform]

end Interpretation

/-! ## Well-formed programs -/

/-- The height of the stack behind an instruction, unless an operand is missing. -/
def Instruction.height? : Nat → Instruction → Option Nat
  | height, .leaf _ => some (height + 1)
  | height + 1, .operator .not => some (height + 1)
  | height + 2, .operator (.join _) => some (height + 1)
  | _, .operator _ => none

namespace Program

/-- The height of the stack behind a program, unless an operand is missing on the way. -/
def height? (height : Nat) (program : Program) : Option Nat :=
  program.foldlM Instruction.height? height

/-- No operand is ever missing and one value is left. -/
def WellFormed (program : Program) : Prop := program.height? 0 = some 1

instance (program : Program) : Decidable program.WellFormed :=
  inferInstanceAs (Decidable (program.height? 0 = some 1))

theorem height?_listOnto (formula : Formula) (height : Nat) (rest : Program) :
    height? height (formula.listOnto rest) = height? (height + 1) rest := by
  induction formula generalizing height rest with
  | leaf condition => rfl
  | negation operand ih => exact (ih _ _).trans rfl
  | join junction left right ihLeft ihRight =>
      exact (ihLeft _ _).trans ((ihRight _ _).trans rfl)

/-- The formulas that a stack of formulas, the top first, becomes list the same instructions
as the formulas before and the program behind them. -/
theorem exists_formulas (program : Program) (stack : List Formula) {height : Nat}
    (hheight : program.height? stack.length = some height) :
    ∃ formulas : List Formula, formulas.length = height ∧
      formulas.reverse.flatMap Formula.program =
        stack.reverse.flatMap Formula.program ++ program := by
  induction program generalizing stack with
  | nil =>
      cases hheight
      exact ⟨stack, rfl, by simp⟩
  | cons instruction program ih =>
      have hstep : (instruction.height? stack.length).bind (height? · program) = some height :=
        hheight
      rcases instruction with condition | (_ | junction)
      · obtain ⟨formulas, hlength, hlisting⟩ := ih (.leaf condition :: stack) hstep
        exact ⟨formulas, hlength, by simp [hlisting]⟩
      · rcases stack with _ | ⟨operand, stack⟩
        · cases hstep
        · obtain ⟨formulas, hlength, hlisting⟩ := ih (.negation operand :: stack) hstep
          exact ⟨formulas, hlength, by simp [hlisting]⟩
      · rcases stack with _ | ⟨right, _ | ⟨left, stack⟩⟩
        · cases hstep
        · cases hstep
        · obtain ⟨formulas, hlength, hlisting⟩ := ih (.join junction left right :: stack) hstep
          exact ⟨formulas, hlength, by simp [hlisting]⟩

/-- The well-formed programs are the listings of formulas. -/
theorem wellFormed_iff (program : Program) :
    program.WellFormed ↔ ∃ formula : Formula, formula.program = program := by
  constructor
  · intro hwell
    obtain ⟨formulas, hlength, hlisting⟩ := exists_formulas program [] hwell
    obtain ⟨formula, rfl⟩ := List.length_eq_one_iff.mp hlength
    exact ⟨formula, by simpa using hlisting⟩
  · rintro ⟨formula, rfl⟩
    exact height?_listOnto formula 0 []

end Program

end FacetFilter
