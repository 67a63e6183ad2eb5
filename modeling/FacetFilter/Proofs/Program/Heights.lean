import FacetFilter.Proofs.Journal
import FacetFilter.Proofs.Program.Interpretation

/-!
# Heights of the stack

How many values stand on the stack does not depend on what they are.  A run that
gives a value is therefore the run of a well-formed program, under every reading,
and a reading that never fails by itself ends as the heights alone say: in a value,
at the first operator that lacks an operand, or with too many values left.
-/

namespace FacetFilter

open Journaled

/-! ## Programs out of order -/

namespace Program

theorem height?_append (height : Nat) (first second : Program) :
    height? height (first ++ second) = (height? height first).bind (height? · second) :=
  List.foldlM_append

/-- How a program fails to leave one value, by the heights of the stack. -/
inductive Disordered (program : Program) : MachineFault → Prop where
  | underflow {before after : Program} {operator : Operator} {height : Nat}
      (hlisting : program = before ++ .operator operator :: after)
      (hbefore : before.height? 0 = some height)
      (hlacking : (Instruction.operator operator).height? height = none) :
      Disordered program (.underflow operator before.length)
  | imbalance {height : Nat} (hheight : program.height? 0 = some height) (hcount : height ≠ 1) :
      Disordered program (.imbalance height)

/-- Unless every operator finds its operands, there is a first one that does not. -/
theorem height?_or_lacking (program : Program) (start : Nat) :
    (∃ height, program.height? start = some height) ∨
      ∃ (before after : Program) (operator : Operator) (height : Nat),
        program = before ++ .operator operator :: after ∧
          before.height? start = some height ∧
            (Instruction.operator operator).height? height = none := by
  induction program generalizing start with
  | nil => exact .inl ⟨start, rfl⟩
  | cons instruction program ih =>
      cases hstep : instruction.height? start with
      | none =>
          cases instruction with
          | leaf condition => cases hstep
          | operator operator => exact .inr ⟨[], program, operator, start, rfl, rfl, hstep⟩
      | some next =>
          have hfirst : ∀ rest : Program,
              height? start (instruction :: rest) = height? next rest := by
            intro rest
            exact congrArg (Option.bind · (height? · rest)) hstep
          rcases ih next with
            ⟨height, hheight⟩ | ⟨before, after, operator, height, rfl, hbefore, hlacking⟩
          · exact .inl ⟨height, (hfirst program).trans hheight⟩
          · exact .inr ⟨instruction :: before, after, operator, height, rfl,
              (hfirst before).trans hbefore, hlacking⟩

theorem wellFormed_or_disordered (program : Program) :
    program.WellFormed ∨ ∃ fault, program.Disordered fault := by
  rcases program.height?_or_lacking 0 with
    ⟨height, hheight⟩ | ⟨before, after, operator, height, hlisting, hbefore, hlacking⟩
  · by_cases hcount : height = 1
    · subst hcount
      exact .inl hheight
    · exact .inr ⟨_, .imbalance hheight hcount⟩
  · exact .inr ⟨_, .underflow hlisting hbefore hlacking⟩

/-- Behind an instruction at least one value stands on the stack. -/
theorem height_pos {program : Program} {height : Nat} (hne : program ≠ [])
    (hheight : program.height? 0 = some height) : 0 < height := by
  obtain ⟨before, last, rfl⟩ := program.eq_nil_or_concat.resolve_left hne
  rw [List.concat_eq_append, height?_append] at hheight
  obtain ⟨reached, -, hlast⟩ := Option.bind_eq_some_iff.mp hheight
  have hstep : last.height? reached = some height := by
    simpa [height?] using hlast
  rcases last with condition | (_ | junction)
  · cases hstep
    exact Nat.succ_pos reached
  · rcases reached with _ | reached
    · cases hstep
    · cases hstep
      exact Nat.succ_pos reached
  · rcases reached with _ | _ | reached
    · cases hstep
    · cases hstep
    · cases hstep
      exact Nat.succ_pos reached

/-- The program, with one negation more where `inverted`. -/
def negatedIf (inverted : Bool) (program : Program) : Program :=
  if inverted then program ++ [.operator .not] else program

/-- A last negation finds its operand and leaves the height as it is. -/
theorem height?_negation {program : Program} {height : Nat} (hne : program ≠ [])
    (hheight : program.height? 0 = some height) :
    height? 0 (program ++ [.operator .not]) = some height := by
  have hpos := height_pos hne hheight
  rcases height with _ | height
  · exact absurd hpos (Nat.lt_irrefl 0)
  · rw [height?_append, hheight]
    rfl

theorem Disordered.negation {program : Program} {fault : MachineFault} (hne : program ≠ [])
    (hdisordered : program.Disordered fault) :
    Disordered (program ++ [.operator .not]) fault := by
  cases hdisordered with
  | @underflow before after operator height hlisting hbefore hlacking =>
      have hlonger : program ++ [.operator .not] =
          before ++ .operator operator :: (after ++ [.operator .not]) := by
        rw [hlisting, List.append_assoc, List.cons_append]
      exact .underflow hlonger hbefore hlacking
  | imbalance hheight hcount => exact .imbalance (height?_negation hne hheight) hcount

end Program

namespace Interpretation

variable {α : Type} {reading : Interpretation α}

/-! ## What a run that succeeds says about heights -/

theorem height?_of_step {position : Nat} {stack out : List α} {instruction : Instruction}
    (hstep : MayYield (reading.step position stack instruction) out) :
    instruction.height? stack.length = some out.length := by
  rcases instruction with condition | (_ | junction)
  · obtain ⟨value, -, hpure⟩ := hstep.of_bind
    rw [← hpure.eq_of_pure]
    rfl
  · rcases stack with _ | ⟨operand, stack⟩
    · exact absurd hstep not_mayYield_throw
    · rw [← MayYield.eq_of_pure hstep]
      rfl
  · cases hjoin : reading.join junction position with
    | error fault =>
        simp only [step, hjoin] at hstep
        exact absurd hstep not_mayYield_throw
    | ok operation =>
        simp only [step, hjoin] at hstep
        rcases stack with _ | ⟨right, _ | ⟨left, stack⟩⟩
        · exact absurd hstep not_mayYield_throw
        · exact absurd hstep not_mayYield_throw
        · obtain ⟨value, -, hpure⟩ := MayYield.of_bind hstep
          rw [← hpure.eq_of_pure]
          rfl

theorem height?_of_perform {position : Nat} {stack out : List α} {program : Program}
    (hperform : MayYield (reading.perform position stack program) out) :
    program.height? stack.length = some out.length := by
  induction program generalizing position stack with
  | nil =>
      rw [← MayYield.eq_of_pure hperform]
      rfl
  | cons instruction program ih =>
      obtain ⟨next, hstep, hrest⟩ := MayYield.of_bind hperform
      have hfirst := height?_of_step hstep
      exact (congrArg (Option.bind · (Program.height? · program)) hfirst).trans (ih hrest)

/-- Whatever the values are, only a well-formed program leaves one. -/
theorem wellFormed_of_run {program : Program} {value : α}
    (hrun : MayYield (reading.run program) value) : program.WellFormed := by
  obtain ⟨stack, hperform, hlast⟩ := hrun.of_bind
  have hheight := height?_of_perform hperform
  rcases stack with _ | ⟨value', _ | ⟨second, rest⟩⟩
  · exact absurd hlast not_mayYield_throw
  · exact hheight
  · exact absurd hlast not_mayYield_throw

/-! ## Readings that never fail by themselves -/

/-- Every condition of the program has a value, and every junction joins two values. -/
structure Serves (reading : Interpretation α) (program : Program) : Prop where
  leaf : ∀ condition, .leaf condition ∈ program →
    ∃ value, Yields (reading.leaf condition) (.ok value)
  join : ∀ junction, .operator (.join junction) ∈ program → ∀ position,
    ∃ operation, reading.join junction position = .ok operation ∧
      ∀ left right, ∃ value, Yields (operation left right) (.ok value)

theorem Serves.mono {program part : Program} (hserves : reading.Serves program)
    (hpart : part ⊆ program) : reading.Serves part where
  leaf condition hmem := hserves.leaf condition (hpart hmem)
  join junction hmem := hserves.join junction (hpart hmem)

/-- A negation asks nothing of a reading. -/
theorem Serves.negation {program : Program} (hserves : reading.Serves program) :
    reading.Serves (program ++ [.operator .not]) where
  leaf condition hmem := hserves.leaf condition (by simpa using hmem)
  join junction hmem := hserves.join junction (by simpa using hmem)

theorem Serves.step {instruction : Instruction} (hserves : reading.Serves [instruction])
    (position : Nat) {stack : List α} {height : Nat}
    (hheight : instruction.height? stack.length = some height) :
    ∃ out, out.length = height ∧
      Yields (reading.step position stack instruction) (.ok out) := by
  rcases instruction with condition | (_ | junction)
  · obtain ⟨value, hvalue⟩ := hserves.leaf condition (List.mem_singleton_self _)
    cases hheight
    exact ⟨value :: stack, rfl, hvalue.bind (fun value => .ok (value :: stack))
      fun value _ => yields_pure (value :: stack)⟩
  · rcases stack with _ | ⟨operand, stack⟩
    · cases hheight
    · cases hheight
      exact ⟨reading.negation operand :: stack, rfl, yields_pure _⟩
  · rcases stack with _ | ⟨right, _ | ⟨left, stack⟩⟩
    · cases hheight
    · cases hheight
    · cases hheight
      obtain ⟨operation, hjoin, hyields⟩ :=
        hserves.join junction (List.mem_singleton_self _) position
      obtain ⟨value, hvalue⟩ := hyields left right
      refine ⟨value :: stack, rfl, ?_⟩
      simp only [Interpretation.step, hjoin]
      exact hvalue.bind (fun value => .ok (value :: stack))
        fun value _ => yields_pure (value :: stack)

theorem Serves.step_lacking {operator : Operator} (hserves : reading.Serves [.operator operator])
    (position : Nat) {stack : List α}
    (hlacking : (Instruction.operator operator).height? stack.length = none) :
    Yields (reading.step position stack (.operator operator))
      (.error (.machine (.underflow operator position))) := by
  rcases operator with _ | junction
  · rcases stack with _ | ⟨operand, stack⟩
    · exact yields_throw _
    · cases hlacking
  · obtain ⟨operation, hjoin, -⟩ := hserves.join junction (List.mem_singleton_self _) position
    simp only [Interpretation.step, hjoin]
    rcases stack with _ | ⟨right, _ | ⟨left, stack⟩⟩
    · exact yields_throw _
    · exact yields_throw _
    · cases hlacking

theorem Serves.perform {program : Program} (hserves : reading.Serves program) (position : Nat)
    (stack : List α) {height : Nat} (hheight : program.height? stack.length = some height) :
    ∃ out, out.length = height ∧
      Yields (reading.perform position stack program) (.ok out) := by
  induction program generalizing position stack with
  | nil =>
      cases hheight
      exact ⟨stack, rfl, yields_pure stack⟩
  | cons instruction program ih =>
      obtain ⟨reached, hfirst, hrest⟩ := Option.bind_eq_some_iff.mp hheight
      obtain ⟨next, rfl, hstep⟩ :=
        (hserves.mono (List.cons_subset_cons _ (List.nil_subset _))).step position hfirst
      obtain ⟨out, hlength, hperform⟩ :=
        ih (hserves.mono (List.subset_cons_self _ _)) (position + 1) next hrest
      refine ⟨out, hlength, hstep.bind (fun _ => .ok out) fun other hother => ?_⟩
      cases hother
      exact hperform

theorem perform_append (reading : Interpretation α) (position : Nat) (stack : List α)
    (first second : Program) :
    reading.perform position stack (first ++ second) =
      reading.perform position stack first >>= fun stack =>
        reading.perform (position + first.length) stack second := by
  induction first generalizing position stack with
  | nil => simp [Interpretation.perform]
  | cons instruction first ih =>
      rw [List.cons_append, Interpretation.perform, Interpretation.perform, bind_assoc]
      congr 1
      funext next
      rw [ih, List.length_cons, Nat.add_assoc, Nat.add_comm 1]

/-- Where the first instructions keep the stack and the next one fails, the run ends there. -/
theorem run_of_failing_step {before after : Program} {instruction : Instruction} {height : Nat}
    {fault : Fault} (hserves : reading.Serves before) (hbefore : before.height? 0 = some height)
    (hstep : ∀ stack : List α, stack.length = height →
      Yields (reading.step before.length stack instruction) (.error fault)) :
    Yields (reading.run (before ++ instruction :: after)) (.error fault) := by
  obtain ⟨out, hlength, hperform⟩ := hserves.perform 0 [] hbefore
  refine Yields.bind_error ?_ _
  rw [perform_append]
  refine hperform.bind (fun _ => .error fault) fun stack hstack => ?_
  cases hstack
  rw [Nat.zero_add]
  exact (hstep out hlength).bind_error _

variable {program : Program}

theorem Serves.run_of_wellFormed (hserves : reading.Serves program)
    (hwell : program.WellFormed) : ∃ value, Yields (reading.run program) (.ok value) := by
  obtain ⟨out, hlength, hperform⟩ := hserves.perform 0 [] hwell
  obtain ⟨value, rfl⟩ := List.length_eq_one_iff.mp hlength
  refine ⟨value, hperform.bind (fun _ => .ok value) fun stack hstack => ?_⟩
  cases hstack
  exact yields_pure value

theorem Serves.run_of_disordered (hserves : reading.Serves program) {fault : MachineFault}
    (hdisordered : program.Disordered fault) :
    Yields (reading.run program) (.error (.machine fault)) := by
  cases hdisordered with
  | @underflow before after operator height hlisting hbefore hlacking =>
      subst hlisting
      refine run_of_failing_step (hserves.mono (List.subset_append_left _ _)) hbefore ?_
      rintro stack rfl
      exact (hserves.mono (by simp)).step_lacking before.length hlacking
  | @imbalance height hheight hcount =>
      obtain ⟨out, rfl, hperform⟩ := hserves.perform 0 [] hheight
      refine hperform.bind (fun _ => .error (.machine (.imbalance out.length)))
        fun stack hstack => ?_
      cases hstack
      rcases out with _ | ⟨value, _ | ⟨second, rest⟩⟩
      · exact yields_throw _
      · exact absurd rfl hcount
      · exact yields_throw _

end Interpretation

end FacetFilter
