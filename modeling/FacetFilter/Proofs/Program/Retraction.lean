import FacetFilter.Proofs.Program.Expansion
import FacetFilter.Proofs.Program.Heights

/-!
# Writing out once and for all

Writing out succeeds on well-formed programs only, and what it gives is well formed
and free of exclusive disjunctions.  On such programs it changes nothing, under any
settings, so writing out a second time is of no effect.
-/

namespace FacetFilter

open Journaled

namespace Formula

/-- There is nothing to write out. -/
theorem expanded_of_xorFree (expansion : Expansion) {formula : Formula}
    (hfree : formula.program.XorFree) : formula.expanded expansion = formula := by
  induction formula with
  | leaf condition => rfl
  | negation operand ih => rw [expanded, ih (Program.xorFree_of_negation hfree)]
  | join junction left right ihLeft ihRight =>
      obtain ⟨hleft, hright, hjunction⟩ := Program.xorFree_of_join hfree
      cases junction with
      | and | or => rw [expanded, ihLeft hleft, ihRight hright]; simp
      | xor => exact absurd rfl hjunction

/-- There is nothing to hold against the limit. -/
theorem overrun?_of_xorFree (settings : Settings) {formula : Formula} (position : Nat)
    (hfree : formula.program.XorFree) : formula.overrun? settings position = none := by
  induction formula generalizing position with
  | leaf condition => rfl
  | negation operand ih => exact ih position (Program.xorFree_of_negation hfree)
  | join junction left right ihLeft ihRight =>
      obtain ⟨hleft, hright, hjunction⟩ := Program.xorFree_of_join hfree
      rw [overrun?, ihLeft _ hleft, ihRight _ hright, if_neg fun hboth => hjunction hboth.1]
      rfl

end Formula

namespace Program

/-- A well-formed program without exclusive disjunctions is its own writing out. -/
theorem expand_of_xorFree (settings : Settings) {program : Program} (hwell : program.WellFormed)
    (hfree : program.XorFree) : (program.expand settings).outcome.1 = .ok program := by
  obtain ⟨formula, rfl⟩ := (wellFormed_iff program).mp hwell
  rw [(expand_yields settings formula).outcome, Formula.sizeFault?,
    Formula.overrun?_of_xorFree settings 0 hfree, Formula.expanded_of_xorFree _ hfree]
  rfl

/-- Only a well-formed program is written out, as the written-out formula that it lists. -/
theorem exists_formula_of_expand {settings : Settings} {program out : Program}
    (hexpand : (program.expand settings).outcome.1 = .ok out) :
    ∃ formula : Formula, program = formula.program ∧
      out = (formula.expanded settings.expansion).program := by
  obtain ⟨operand, hrun, -⟩ := (mayYield_of_outcome hexpand).of_bind
  obtain ⟨formula, rfl⟩ := (wellFormed_iff program).mp (Interpretation.wellFormed_of_run hrun)
  refine ⟨formula, rfl, ?_⟩
  rw [(expand_yields settings formula).outcome] at hexpand
  cases hfault : formula.sizeFault? settings 0 with
  | some fault =>
      rw [hfault] at hexpand
      cases hexpand
  | none =>
      rw [hfault] at hexpand
      cases hexpand
      rfl

/-- Writing out takes well-formed programs to well-formed programs without exclusive
disjunctions, which are just the programs that it leaves as they are. -/
theorem expand_retraction (settings : Settings) (program : Program) :
    (∀ out, (program.expand settings).outcome.1 = .ok out →
      program.WellFormed ∧ out.XorFree ∧ out.WellFormed ∧
        ∀ other : Settings, (out.expand other).outcome.1 = .ok out) ∧
      ((program.expand settings).outcome.1 = .ok program ↔
        program.WellFormed ∧ program.XorFree) := by
  have hexpanded : ∀ out, (program.expand settings).outcome.1 = .ok out →
      program.WellFormed ∧ out.XorFree ∧ out.WellFormed := by
    intro out hexpand
    obtain ⟨formula, rfl, rfl⟩ := exists_formula_of_expand hexpand
    exact ⟨height?_listOnto formula 0 [], formula.xorFree_expanded settings.expansion,
      height?_listOnto _ 0 []⟩
  refine ⟨fun out hexpand => ?_, fun hexpand => ?_, fun hprogram => ?_⟩
  · obtain ⟨hwell, hfree, hout⟩ := hexpanded out hexpand
    exact ⟨hwell, hfree, hout, fun other => expand_of_xorFree other hout hfree⟩
  · obtain ⟨hwell, hfree, -⟩ := hexpanded program hexpand
    exact ⟨hwell, hfree⟩
  · exact expand_of_xorFree settings hprogram.1 hprogram.2

/-- What is written out under one limit and expansion keeps to any other. -/
theorem expand_retraction_chainedFlags :
    ∃ out, (chainedFlags.expand ⟨.empty, .flipLeaves, 64⟩).outcome.1 = .ok out ∧
      out.length = 20 ∧ out.XorFree ∧ out.WellFormed ∧
        (out.expand ⟨.empty, .complement, 0⟩).outcome.1 = .ok out := by
  have hretraction := expand_retraction ⟨.empty, .flipLeaves, 64⟩ chainedFlags
  obtain ⟨-, hfree, hwell, hagain⟩ := hretraction.1 _ rfl
  exact ⟨_, rfl, rfl, hfree, hwell, hagain _⟩

end Program

end FacetFilter
