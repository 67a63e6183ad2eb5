import Mathlib.Data.List.Induction
import FacetFilter.Program.Symbol

/-!
# The grammar of expressions

An expression is a disjunction of exclusive disjunctions of conjunctions of
operands, and an operand is a condition, a negated operand or an expression in
parentheses.  `Derives` pairs the symbols of a phrase with its formula, in which
every chain is grouped to the left.
-/

namespace FacetFilter

namespace Formula

theorem listOnto_eq_append (formula : Formula) (rest : Program) :
    formula.listOnto rest = formula.program ++ rest := by
  have hgeneral : ∀ first second : Program,
      formula.listOnto (first ++ second) = formula.listOnto first ++ second := by
    induction formula with
    | leaf condition => exact fun _ _ => rfl
    | negation operand ih => exact fun first second => ih (_ :: first) second
    | join junction left right ihLeft ihRight =>
        intro first second
        exact (congrArg left.listOnto (ihRight (_ :: first) second)).trans (ihLeft _ second)
  exact hgeneral [] rest

@[simp]
theorem program_leaf (condition : Condition) :
    (leaf condition).program = [.leaf condition] := rfl

@[simp]
theorem program_negation (operand : Formula) :
    (negation operand).program = operand.program ++ [.operator .not] :=
  operand.listOnto_eq_append _

@[simp]
theorem program_join (junction : Junction) (left right : Formula) :
    (join junction left right).program =
      left.program ++ right.program ++ [.operator (.join junction)] := by
  rw [program, listOnto, listOnto_eq_append, listOnto_eq_append, List.append_assoc]

theorem program_ne_nil (formula : Formula) : formula.program ≠ [] := by
  cases formula <;> simp

theorem length_program (formula : Formula) : formula.program.length = formula.size := by
  induction formula with
  | leaf condition => rfl
  | negation operand ih => simp [size, ih]
  | join junction left right ihLeft ihRight => simp [size, ihLeft, ihRight, Nat.add_assoc]

/-- Joins formulas by one junction, grouped to the left. -/
def joinLeft (junction : Junction) (first : Formula) (rest : List Formula) : Formula :=
  rest.foldl (join junction) first

end Formula

namespace Symbol

def condition? : Symbol → Option Condition
  | .leaf condition => some condition
  | _ => none

/-- The instruction that a symbol becomes; parentheses become none. -/
def instruction? : Symbol → Option Instruction
  | .leaf condition => some (.leaf condition)
  | .operator operation => some (.operator operation)
  | _ => none

end Symbol

/-- The kinds of phrases in an expression. -/
inductive Phrase where
  | operand
  /-- Phrases of the next tighter kind, each joined to those before it. -/
  | chain (junction : Junction)
  deriving DecidableEq

namespace Phrase

/-- What the phrases of a chain are made of. -/
def below : Junction → Phrase
  | .or => .chain .xor
  | .xor => .chain .and
  | .and => .operand

abbrev expression : Phrase := .chain .or

/-- The level of the loosest operator that the phrase may show outside parentheses. -/
def level : Phrase → Nat
  | .operand => Operator.not.level
  | .chain junction => (Operator.join junction).level

theorem level_below (junction : Junction) :
    (below junction).level = (Operator.join junction).level + 1 := by
  cases junction <;> rfl

theorem level_injective {left right : Phrase} (hlevel : left.level = right.level) :
    left = right := by
  rcases left with _ | left <;> rcases right with _ | right
  · rfl
  · cases right <;> cases hlevel
  · cases left <;> cases hlevel
  · cases left <;> cases right <;> first | rfl | cases hlevel

theorem level_expression_le (phrase : Phrase) : expression.level ≤ phrase.level := by
  rcases phrase with _ | junction
  · decide
  · cases junction <;> decide

theorem level_le_operand (phrase : Phrase) : phrase.level ≤ operand.level := by
  rcases phrase with _ | junction
  · exact Nat.le_refl _
  · cases junction <;> decide

end Phrase

/-- Symbols between which a junction stands. -/
def joinSymbols (junction : Junction) (first : List Symbol) (rest : List (List Symbol)) :
    List Symbol :=
  first ++ rest.flatMap fun part => .operator (.join junction) :: part

/-- The phrases of the grammar with the formulas that they stand for. -/
inductive Derives : Phrase → List Symbol → Formula → Prop where
  | leaf (condition : Condition) : Derives .operand [.leaf condition] (.leaf condition)
  | negation {symbols : List Symbol} {formula : Formula}
      (hoperand : Derives .operand symbols formula) :
      Derives .operand (.operator .not :: symbols) (.negation formula)
  | group {symbols : List Symbol} {formula : Formula}
      (hexpression : Derives .expression symbols formula) :
      Derives .operand (.opening :: (symbols ++ [.closing])) formula
  | chain (junction : Junction) {symbols : List Symbol} {formula : Formula}
      {rest : List (List Symbol × Formula)}
      (hfirst : Derives (.below junction) symbols formula)
      (hrest : ∀ part ∈ rest, Derives (.below junction) part.1 part.2) :
      Derives (.chain junction) (joinSymbols junction symbols (rest.map Prod.fst))
        (formula.joinLeft junction (rest.map Prod.snd))

namespace Derives

variable {phrase : Phrase} {symbols : List Symbol} {formula : Formula} {junction : Junction}

theorem single (hderives : Derives (.below junction) symbols formula) :
    Derives (.chain junction) symbols formula := by
  have hnone : ∀ part ∈ ([] : List (List Symbol × Formula)),
      Derives (.below junction) part.1 part.2 := fun _ hpart => absurd hpart List.not_mem_nil
  have hchain := chain junction hderives hnone
  simpa [joinSymbols, Formula.joinLeft] using hchain

/-- A chain goes on with one more phrase. -/
theorem extend {more : List Symbol} {last : Formula}
    (hderives : Derives (.chain junction) symbols formula)
    (hlast : Derives (.below junction) more last) :
    Derives (.chain junction) (symbols ++ .operator (.join junction) :: more)
      (.join junction formula last) := by
  cases hderives with
  | @chain _ first head rest hfirst hrest =>
      have hall : ∀ part ∈ rest ++ [(more, last)],
          Derives (.below junction) part.1 part.2 := by
        intro part hpart
        rcases List.mem_append.mp hpart with hpart | hpart
        · exact hrest part hpart
        · rw [List.mem_singleton.mp hpart]
          exact hlast
      have hchain := chain junction hfirst hall
      simpa [joinSymbols, Formula.joinLeft] using hchain

/-- A phrase is also a phrase of every looser kind. -/
theorem loosen {looser : Phrase} (hderives : Derives phrase symbols formula)
    (hlevel : looser.level ≤ phrase.level) : Derives looser symbols formula := by
  obtain ⟨gap, hgap⟩ := Nat.le.dest hlevel
  clear hlevel
  induction gap generalizing looser with
  | zero => exact Phrase.level_injective hgap ▸ hderives
  | succ gap ih =>
      cases looser with
      | operand =>
          have hbound := phrase.level_le_operand
          omega
      | chain junction =>
          have hbelow : (Phrase.below junction).level + gap = phrase.level := by
            rw [Phrase.level_below, ← hgap, Phrase.level]
            omega
          exact (ih hbelow).single

/-- Induction in which a chain grows by one phrase at a time. -/
@[elab_as_elim]
theorem leftInduction
    {motive : ∀ phrase symbols formula, Derives phrase symbols formula → Prop}
    (leaf : ∀ condition, motive _ _ _ (.leaf condition))
    (negation : ∀ {symbols formula} (hoperand : Derives .operand symbols formula),
      motive _ _ _ hoperand → motive _ _ _ (.negation hoperand))
    (group : ∀ {symbols formula} (hexpression : Derives .expression symbols formula),
      motive _ _ _ hexpression → motive _ _ _ (.group hexpression))
    (single : ∀ {junction symbols formula}
      (hphrase : Derives (.below junction) symbols formula),
      motive _ _ _ hphrase → motive _ _ _ hphrase.single)
    (extend : ∀ {junction symbols formula more last}
      (hchain : Derives (.chain junction) symbols formula)
      (hlast : Derives (.below junction) more last),
      motive _ _ _ hchain → motive _ _ _ hlast → motive _ _ _ (hchain.extend hlast))
    (hderives : Derives phrase symbols formula) : motive _ _ _ hderives := by
  induction hderives with
  | leaf condition => exact leaf condition
  | negation hoperand ih => exact negation hoperand ih
  | group hexpression ih => exact group hexpression ih
  | @chain junction symbols formula rest hfirst hrest ihFirst ihRest =>
      have hchain : ∃ hderives, motive (.chain junction)
          (joinSymbols junction symbols (rest.map Prod.fst))
          (formula.joinLeft junction (rest.map Prod.snd)) hderives := by
        induction rest using List.reverseRecOn with
        | nil => simpa [joinSymbols, Formula.joinLeft] using Exists.intro _ (single hfirst ihFirst)
        | append_singleton rest part ih =>
            obtain ⟨hbefore, hmotive⟩ := ih
              (fun other hother => hrest other (List.mem_append_left _ hother))
              (fun other hother => ihRest other (List.mem_append_left _ hother))
            have hextended := Exists.intro _
              (extend hbefore (hrest part (by simp)) hmotive (ihRest part (by simp)))
            simpa [joinSymbols, Formula.joinLeft] using hextended
      exact hchain.2

theorem ne_nil (hderives : Derives phrase symbols formula) : symbols ≠ [] := by
  induction hderives with
  | leaf | negation | group => simp
  | chain junction hfirst hrest ihFirst => simp [joinSymbols, ihFirst]

/-- The conditions stand in the program in the order of the expression. -/
theorem conditions_eq (hderives : Derives phrase symbols formula) :
    formula.program.filterMap Instruction.condition? =
      symbols.filterMap Symbol.condition? := by
  induction hderives using leftInduction with
  | leaf condition => rfl
  | negation _ ih =>
      simpa [List.filterMap_cons, Symbol.condition?, Instruction.condition?] using ih
  | group _ ih => simpa [List.filterMap_cons, Symbol.condition?] using ih
  | single _ ih => exact ih
  | extend _ _ ihChain ihLast =>
      simp [List.filterMap_cons, Symbol.condition?, Instruction.condition?, ihChain, ihLast]

/-- The program has the conditions and operators of the expression, each as often. -/
theorem perm_instructions (hderives : Derives phrase symbols formula) :
    formula.program.Perm (symbols.filterMap Symbol.instruction?) := by
  induction hderives using leftInduction with
  | leaf condition => exact .refl _
  | negation _ ih =>
      simp only [Formula.program_negation, List.filterMap_cons, Symbol.instruction?]
      exact List.perm_append_singleton _ _ |>.trans (ih.cons _)
  | group _ ih => simpa [List.filterMap_cons, Symbol.instruction?] using ih
  | single _ ih => exact ih
  | extend _ _ ihChain ihLast =>
      simp only [Formula.program_join, List.filterMap_append, List.filterMap_cons,
        Symbol.instruction?, List.append_assoc]
      exact ihChain.append (List.perm_append_singleton _ _ |>.trans (ihLast.cons _))

end Derives

end FacetFilter
