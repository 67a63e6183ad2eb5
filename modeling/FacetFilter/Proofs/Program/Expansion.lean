import FacetFilter.Program.Expansion
import FacetFilter.Proofs.Program.Selection

/-!
# What writing out exclusive disjunctions keeps

The written-out program lists the formula in which each exclusive disjunction is
replaced from the inside out, or the first one past the limit is named.  By
complement it selects what the program selected before: every operand lies within
the catalog, so the two halves are the two parts of a symmetric difference.
-/

namespace FacetFilter

open Journaled

/-- Flipping the condition selects the entities of the catalog that it did not select. -/
def Condition.FlipsIn (condition : Condition) (catalog : Catalog) : Prop :=
  condition.flip.selected catalog = IdSet.complement (condition.selected catalog) catalog.ids

/-! ## The written-out formula -/

namespace Formula

/-- The opposite of an operand, under the chosen expansion. -/
def opposite (expansion : Expansion) (operand : Formula) : Formula :=
  match expansion with
  | .complement => .negation operand
  | .flipLeaves =>
      match operand with
      | .leaf condition => .leaf condition.flip
      | _ => .negation operand

/-- The written-out exclusive disjunction. -/
def exclusive (expansion : Expansion) (left right : Formula) : Formula :=
  .join .or (.join .and left (right.opposite expansion))
    (.join .and (left.opposite expansion) right)

/-- The formula with every exclusive disjunction written out. -/
def expanded (expansion : Expansion) : Formula → Formula
  | .leaf condition => .leaf condition
  | .negation operand => .negation (operand.expanded expansion)
  | .join .xor left right =>
      exclusive expansion (left.expanded expansion) (right.expanded expansion)
  | .join junction left right =>
      .join junction (left.expanded expansion) (right.expanded expansion)

/-- The size that the limit is held against. -/
def projectedSize (left right : Formula) : Nat := 2 * (left.size + right.size) + 5

/-- The first exclusive disjunction past the limit, in a program that begins at `position`. -/
def overrun? (settings : Settings) : Nat → Formula → Option Nat
  | _, .leaf _ => none
  | position, .negation operand => operand.overrun? settings position
  | position, .join junction left right =>
      let projected := (left.expanded settings.expansion).projectedSize
        (right.expanded settings.expansion)
      (left.overrun? settings position).or
        ((right.overrun? settings (position + left.size)).or
          (if junction = .xor ∧ settings.maxInstructions < projected then
            some (position + left.size + right.size)
          else none))

/-- The fault of a program with an exclusive disjunction past the limit. -/
def sizeFault? (settings : Settings) (position : Nat) (formula : Formula) : Option Fault :=
  (formula.overrun? settings position).map fun position =>
    .query (.tooLarge settings.maxInstructions position)

end Formula

namespace Operand

def ofFormula (formula : Formula) : Operand := ⟨formula, formula.size, rfl⟩

theorem eq_ofFormula (operand : Operand) : operand = ofFormula operand.formula := by
  obtain ⟨formula, size, rfl⟩ := operand
  rfl

theorem ofFormula_opposite (expansion : Expansion) (formula : Formula) :
    (ofFormula formula).opposite expansion = ofFormula (formula.opposite expansion) := by
  rw [eq_ofFormula ((ofFormula formula).opposite expansion)]
  congr 1
  cases expansion with
  | complement => rfl
  | flipLeaves => cases formula <;> rfl

theorem ofFormula_exclusive (expansion : Expansion) (left right : Formula) :
    (ofFormula left).exclusive expansion (ofFormula right) =
      ofFormula (left.exclusive expansion right) := by
  rw [exclusive, ofFormula_opposite, ofFormula_opposite]
  rfl

end Operand

namespace Program

theorem expansionReading_combine_xor (settings : Settings) (position : Nat)
    (left right : Formula) :
    (expansionReading settings).combine .xor position (.ofFormula left) (.ofFormula right) =
      if settings.maxInstructions < left.projectedSize right then
        Journaled.tell (.expansionRefused position (left.projectedSize right)
          settings.maxInstructions) >>= fun _ =>
            throw (.query (.tooLarge settings.maxInstructions position))
      else pure (.ofFormula (left.exclusive settings.expansion right)) := by
  have hprojected : (Operand.ofFormula left).projectedSize (.ofFormula right) =
      left.projectedSize right := rfl
  simp only [Interpretation.combine, expansionReading, hprojected, Operand.ofFormula_exclusive]
  split <;> rfl

/-- Writing out ends in the written-out formula, or names the first junction past the limit. -/
theorem expansionReading_yields (settings : Settings) (formula : Formula) (position : Nat) :
    Yields ((expansionReading settings).value position formula)
      (settle (formula.sizeFault? settings position)
        (Operand.ofFormula (formula.expanded settings.expansion))) := by
  induction formula generalizing position with
  | leaf condition => exact yields_pure _
  | negation operand ih =>
      have hmap := (ih position).map Operand.negation
      rwa [map_settle] at hmap
  | join junction left right ihLeft ihRight =>
      rw [Formula.sizeFault?, Formula.overrun?, Option.map_or, Option.map_or]
      refine (ihLeft position).bind_settle ((ihRight _).bind_settle ?_)
      cases junction with
      | and | or => exact yields_pure _
      | xor =>
          by_cases hlimit : settings.maxInstructions <
              (left.expanded settings.expansion).projectedSize
                (right.expanded settings.expansion)
          · rw [if_pos ⟨rfl, hlimit⟩, expansionReading_combine_xor, if_pos hlimit]
            exact (yields_throw _).after_tell _
          · rw [if_neg fun hboth => hlimit hboth.2, expansionReading_combine_xor,
              if_neg hlimit]
            exact yields_pure _

theorem expand_yields (settings : Settings) (formula : Formula) :
    Yields (formula.program.expand settings)
      (settle (formula.sizeFault? settings 0) (formula.expanded settings.expansion).program) := by
  rw [expand, Interpretation.run_program, ← Option.or_none (o := formula.sizeFault? settings 0)]
  exact (expansionReading_yields settings formula 0).bind_settle
    ((yields_pure _).after_tell _)

/-! ## What the written-out program keeps -/

theorem XorFree.append {first second : Program} (hfirst : first.XorFree)
    (hsecond : second.XorFree) : XorFree (first ++ second) := by
  intro instruction hmem
  rcases List.mem_append.mp hmem with hmem | hmem
  · exact hfirst instruction hmem
  · exact hsecond instruction hmem

theorem xorFree_operator {operator : Operator} (hoperator : operator ≠ .join .xor) :
    XorFree [.operator operator] := by
  intro instruction hmem
  rw [List.mem_singleton.mp hmem]
  rcases operator with _ | (_ | _ | _)
  · rfl
  · rfl
  · rfl
  · exact absurd rfl hoperator

end Program

namespace Formula

open Program

variable (expansion : Expansion)

theorem xorFree_opposite {operand : Formula} (hfree : XorFree operand.program) :
    XorFree (operand.opposite expansion).program := by
  have hnegation : XorFree (negation operand).program := by
    rw [program_negation]
    exact hfree.append (xorFree_operator (by decide))
  cases expansion with
  | complement => exact hnegation
  | flipLeaves =>
      cases operand with
      | leaf condition =>
          intro instruction hmem
          rw [List.mem_singleton.mp hmem]
          rfl
      | negation | join => exact hnegation

/-- No exclusive disjunction is left. -/
theorem xorFree_expanded (formula : Formula) : XorFree (formula.expanded expansion).program := by
  induction formula with
  | leaf condition =>
      intro instruction hmem
      rw [List.mem_singleton.mp hmem]
      rfl
  | negation operand ih =>
      rw [expanded, program_negation]
      exact ih.append (xorFree_operator (by decide))
  | join junction left right ihLeft ihRight =>
      have hjoin : ∀ {junction left right}, junction ≠ .xor → XorFree left.program →
          XorFree right.program → XorFree (join junction left right).program := by
        intro junction left right hjunction hleft hright
        rw [program_join]
        exact (hleft.append hright).append (xorFree_operator (by simpa using hjunction))
      cases junction with
      | and => exact hjoin (by decide) ihLeft ihRight
      | or => exact hjoin (by decide) ihLeft ihRight
      | xor =>
          exact hjoin (by decide)
            (hjoin (by decide) ihLeft (xorFree_opposite expansion ihRight))
            (hjoin (by decide) (xorFree_opposite expansion ihLeft) ihRight)

theorem reads_negation (operand : Formula) :
    reads (negation operand).program = reads operand.program := by
  rw [program_negation, reads_append]
  exact List.append_nil _

theorem reads_opposite (operand : Formula) :
    reads (operand.opposite expansion).program = reads operand.program := by
  cases expansion with
  | complement => exact reads_negation operand
  | flipLeaves =>
      cases operand with
      | leaf condition => cases condition <;> rfl
      | negation | join => exact reads_negation _

theorem reads_join (junction : Junction) (left right : Formula) :
    reads (join junction left right).program = reads left.program ++ reads right.program := by
  rw [program_join, reads_append, reads_append]
  exact List.append_nil _

/-- Repetition does not change which column comes first. -/
theorem find?_reads_expanded (formula : Formula) (test : String → Bool) :
    (reads (formula.expanded expansion).program).find? test =
      (reads formula.program).find? test := by
  induction formula with
  | leaf condition => rfl
  | negation operand ih =>
      rw [expanded, reads_negation, reads_negation]
      exact ih
  | join junction left right ihLeft ihRight =>
      have hjoin : ∀ junction, (reads (join junction (left.expanded expansion)
          (right.expanded expansion)).program).find? test =
            (reads (join junction left right).program).find? test := by
        intro junction
        rw [reads_join, reads_join, List.find?_append, List.find?_append, ihLeft, ihRight]
      cases junction with
      | and | or => exact hjoin _
      | xor =>
          rw [← hjoin .xor, expanded, exclusive]
          simp only [reads_join, reads_opposite, List.find?_append]
          cases (reads (left.expanded expansion).program).find? test with
          | some column => rfl
          | none => cases (reads (right.expanded expansion).program).find? test <;> rfl

theorem missing?_expanded (formula : Formula) (catalog : Catalog) :
    (formula.expanded expansion).program.missing? catalog = formula.program.missing? catalog :=
  find?_reads_expanded expansion formula _

theorem mem_reads_expanded (formula : Formula) (column : String) :
    column ∈ reads (formula.expanded expansion).program ↔ column ∈ reads formula.program := by
  have hfind : ∀ columns : List String,
      column ∈ columns ↔ (columns.find? (· == column)).isSome = true := by
    intro columns
    simp
  rw [hfind, hfind, find?_reads_expanded]

/-! ## What the written-out formula selects -/

theorem expanded_eq_leaf {formula : Formula} {condition : Condition}
    (hleaf : formula.expanded expansion = .leaf condition) : formula = .leaf condition := by
  rcases formula with _ | _ | ⟨junction, _, _⟩
  · exact hleaf
  · cases hleaf
  · cases junction <;> cases hleaf

/-- The opposite selects the complement; where leaves are flipped, this is asked of the leaf. -/
theorem selected_opposite {operand : Formula} {catalog : Catalog}
    (hflips : expansion = .flipLeaves → ∀ condition, operand = .leaf condition →
      condition.FlipsIn catalog) :
    (operand.opposite expansion).selected catalog =
      IdSet.complement (operand.selected catalog) catalog.ids := by
  cases expansion with
  | complement => rfl
  | flipLeaves =>
      cases operand with
      | leaf condition => exact hflips rfl condition rfl
      | negation | join => rfl

/-- Both halves of a written-out exclusive disjunction together are the symmetric difference,
as every operand lies within the catalog. -/
theorem selected_exclusive {left right : Formula} {catalog : Catalog}
    (hleft : (left.opposite expansion).selected catalog =
      IdSet.complement (left.selected catalog) catalog.ids)
    (hright : (right.opposite expansion).selected catalog =
      IdSet.complement (right.selected catalog) catalog.ids) :
    (left.exclusive expansion right).selected catalog =
      IdSet.symmDiff (left.selected catalog) (right.selected catalog) := by
  apply Ascending.ext_of_mem
  intro id
  have hleftWithin := left.selected_subset catalog id
  have hrightWithin := right.selected_subset catalog id
  simp only [exclusive, selected, hleft, hright, Junction.onSets, IdSet.mem_union,
    IdSet.mem_inter, IdSet.mem_complement, IdSet.mem_symmDiff]
  constructor
  · rintro (⟨hmem, -, hnot⟩ | ⟨⟨-, hnot⟩, hmem⟩)
    · exact .inl ⟨hmem, hnot⟩
    · exact .inr ⟨hnot, hmem⟩
  · rintro (⟨hmem, hnot⟩ | ⟨hnot, hmem⟩)
    · exact .inl ⟨hmem, hleftWithin hmem, hnot⟩
    · exact .inr ⟨⟨hrightWithin hmem, hnot⟩, hmem⟩

/-- Writing out changes no selection where the leaves that are flipped select their complement. -/
theorem selected_expanded_of_flips {formula : Formula} {catalog : Catalog}
    (hflips : expansion = .flipLeaves → ∀ condition, .leaf condition ∈ formula.program →
      condition.FlipsIn catalog) :
    (formula.expanded expansion).selected catalog = formula.selected catalog := by
  induction formula with
  | leaf condition => rfl
  | negation operand ih =>
      have hoperand := ih fun hexpansion condition hmem =>
        hflips hexpansion condition (by simp [hmem])
      rw [expanded, selected, selected, hoperand]
  | join junction left right ihLeft ihRight =>
      have hleftFlips : expansion = .flipLeaves → ∀ condition, .leaf condition ∈ left.program →
          condition.FlipsIn catalog := fun hexpansion condition hmem =>
        hflips hexpansion condition (by simp [hmem])
      have hrightFlips : expansion = .flipLeaves → ∀ condition, .leaf condition ∈ right.program →
          condition.FlipsIn catalog := fun hexpansion condition hmem =>
        hflips hexpansion condition (by simp [hmem])
      -- An operand that is written out as a leaf is that leaf, so its flip was asked for.
      have hopposite : ∀ operand : Formula,
          (expansion = .flipLeaves → ∀ condition, .leaf condition ∈ operand.program →
            condition.FlipsIn catalog) →
            ((operand.expanded expansion).opposite expansion).selected catalog =
              IdSet.complement ((operand.expanded expansion).selected catalog) catalog.ids := by
        intro operand hoperand
        apply selected_opposite
        intro hexpansion condition hleaf
        rw [expanded_eq_leaf expansion hleaf] at hoperand
        exact hoperand hexpansion condition (List.mem_singleton_self _)
      cases junction with
      | and | or =>
          rw [expanded, selected, selected, ihLeft hleftFlips, ihRight hrightFlips]; simp
      | xor =>
          rw [expanded, selected_exclusive expansion (hopposite left hleftFlips)
            (hopposite right hrightFlips), ihLeft hleftFlips, ihRight hrightFlips]
          rfl

/-- By complement, writing out changes no selection. -/
theorem selected_expanded (formula : Formula) (catalog : Catalog) :
    (formula.expanded .complement).selected catalog = formula.selected catalog :=
  selected_expanded_of_flips .complement nofun

end Formula

namespace Program

/-- Evaluating a program whose exclusive disjunctions were written out by complement gives what
the program means with symmetric differences: the same entities, or the first column in the
order of the program that is missing. -/
theorem evaluate_expand_eq_evaluateExclusive (settings : Settings) (program expanded : Program)
    (catalog : Catalog) (hcomplement : settings.expansion = .complement)
    (hwell : program.WellFormed) (hexpand : (program.expand settings).outcome.1 = .ok expanded) :
    (expanded.evaluate catalog false).outcome.1 = (program.evaluateExclusive catalog).outcome.1 ∧
      match program.missing? catalog with
      | some column =>
          (expanded.evaluate catalog false).outcome.1 = .error (.name (.unknownColumn column))
      | none => ∃ members, (expanded.evaluate catalog false).outcome.1 = .ok members := by
  obtain ⟨formula, rfl⟩ := (wellFormed_iff program).mp hwell
  have hexpanded : expanded = (formula.expanded .complement).program := by
    rw [(expand_yields settings formula).outcome, hcomplement] at hexpand
    cases hfault : formula.sizeFault? settings 0 with
    | some fault =>
        rw [hfault] at hexpand
        cases hexpand
    | none =>
        rw [hfault] at hexpand
        cases hexpand
        rfl
  have hevaluate := (evaluate_yields catalog (formula.expanded .complement) false
    (formula.xorFree_expanded .complement)).outcome
  have hexclusive := (evaluateExclusive_yields catalog formula).outcome
  rw [columnFault?, Formula.missing?_expanded, Formula.negatedIf,
    if_neg Bool.false_ne_true, Formula.selected_expanded] at hevaluate
  rw [hexpanded, hevaluate, hexclusive]
  refine ⟨rfl, ?_⟩
  cases formula.program.missing? catalog with
  | some column => rfl
  | none => exact ⟨_, rfl⟩

/-- Three flags joined by two exclusive disjunctions. -/
def chainedFlags : Program :=
  [.leaf (.flag (.onColumn "fan")), .leaf (.flag (.onColumn "rating")), .operator (.join .xor),
    .leaf (.flag (.onColumn "stock")), .operator (.join .xor)]

/-- Entities with one, with two, with all three and with none of the flags. -/
def flagged : Catalog :=
  let fan := Ascending.empty.insert ("fan", .bool true)
  let rated := fan.insert ("rating", .bool true)
  (((Catalog.empty.add ⟨1, fan, [], []⟩).add ⟨2, rated, [], []⟩).add
    ⟨3, rated.insert ("stock", .bool true), [], []⟩).add ⟨4, .empty, [], []⟩

/-- An odd number of flags is selected; of two missing columns the one that is read first is
named. -/
theorem evaluate_expand_chainedFlags :
    chainedFlags.WellFormed ∧ ∃ expanded : Program,
      (chainedFlags.expand .standard).outcome.1 = .ok expanded ∧ expanded.length = 25 ∧
        (expanded.evaluate (Catalog.empty.declare "rating") false).outcome.1 =
            .error (.name (.unknownColumn "fan")) ∧
          ∃ members : IdSet, (expanded.evaluate flagged false).outcome.1 = .ok members ∧
            (chainedFlags.evaluateExclusive flagged).outcome.1 = .ok members ∧
              members.toList = [1, 3] := by
  have hwell : chainedFlags.WellFormed := by decide
  have hmissing := evaluate_expand_eq_evaluateExclusive .standard chainedFlags _
    (Catalog.empty.declare "rating") rfl hwell rfl
  obtain ⟨hequal, members, hmembers⟩ :=
    evaluate_expand_eq_evaluateExclusive .standard chainedFlags _ flagged rfl hwell rfl
  have hexclusive := hequal.symm.trans hmembers
  refine ⟨hwell, _, rfl, rfl, hmissing.2, members, hmembers, hexclusive, ?_⟩
  cases hexclusive
  decide

end Program

end FacetFilter
