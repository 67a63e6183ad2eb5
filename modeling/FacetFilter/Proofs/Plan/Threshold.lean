import FacetFilter.Proofs.Plan.Compilation
import FacetFilter.Proofs.Query.Substitution

/-!
# The least limit of a query

The limit is held against sizes that do not depend on it, so it decides whether there
is a plan and has no part in it.  A query keeps to every limit from the size of its
largest exclusive disjunction on; below that the first one past the limit is named, and
a larger limit reaches at least as far.
-/

namespace FacetFilter

open Journaled

namespace Formula

/-- The largest size that is held against the limit, zero where none is. -/
def largestExclusive (expansion : Expansion) : Formula → Nat
  | .leaf _ => 0
  | .negation operand => operand.largestExclusive expansion
  | .join junction left right =>
      max (max (left.largestExclusive expansion) (right.largestExclusive expansion))
        (if junction = .xor then left.checkedSize expansion right else 0)

variable {settings : Settings} {formula : Formula}

theorem overrun?_eq_none_iff {start : Nat} :
    formula.overrun? settings start = none ↔
      formula.largestExclusive settings.expansion ≤ settings.maxInstructions := by
  induction formula generalizing start with
  | leaf condition => simp [overrun?, largestExclusive]
  | negation operand ih => exact ih
  | join junction left right ihLeft ihRight =>
      rw [overrun?, Option.or_eq_none_iff, Option.or_eq_none_iff, ihLeft, ihRight,
        largestExclusive, Nat.max_le, Nat.max_le, and_assoc, checkedSize, ← projectedSize_eq_size]
      by_cases hjunction : junction = .xor <;> simp [hjunction]

/-- A larger limit is passed no earlier. -/
theorem overrun?_le {limit larger position other : Nat} (hlimit : limit ≤ larger)
    (hposition : formula.overrun? { settings with maxInstructions := limit } 0 = some position)
    (hother : formula.overrun? { settings with maxInstructions := larger } 0 = some other) :
    position ≤ other := by
  obtain ⟨offset, rfl, hfirst⟩ := firstPast_of_overrun? hposition
  obtain ⟨otherOffset, rfl, hotherFirst⟩ := firstPast_of_overrun? hother
  exact Nat.add_le_add_left (hfirst.le hotherFirst hlimit) 0

end Formula

namespace Query

/-- A query whose expression can be read has a least limit.  From there on it compiles to one and
the same plan; below it is too large, and what is named as such comes no earlier when the limit
grows. -/
theorem exists_least_limit (settings : Settings) (query : Query) (emitted : List Symbol)
    (program : Program) (hsymbols : symbols settings query.nodes = .ok emitted)
    (hprogram : Program.ofSymbols emitted = .ok program) :
    ∃ (least : Nat) (plan : Plan) (position : Nat → Nat),
      (∀ limit, (query.compile { settings with maxInstructions := limit }).outcome.1 = .ok plan ↔
        least ≤ limit) ∧
      (∀ limit < least, (query.compile { settings with maxInstructions := limit }).outcome.1 =
        .error (.query (.tooLarge limit (position limit)))) ∧
      ∀ limit larger, limit ≤ larger → larger < least → position limit ≤ position larger := by
  by_cases hleaves : query.leafCount = 0
  · refine ⟨0, .everything, id, fun limit => ?_, fun limit hlt => ?_, fun _ _ _ hlt => ?_⟩
    · exact iff_of_true (compile_yields_everything _ hleaves).outcome (Nat.zero_le limit)
    · exact absurd hlt (Nat.not_lt_zero limit)
    · exact absurd hlt (Nat.not_lt_zero _)
  · obtain ⟨formula, hderives, -⟩ := Arrangement.derives_of_ofSymbols hprogram
    let first (limit : Nat) : Option Nat :=
      formula.overrun? { settings with maxInstructions := limit } 0
    have hcompile : ∀ limit,
        (query.compile { settings with maxInstructions := limit }).outcome.1 =
          settle ((first limit).map fun position => .query (.tooLarge limit position))
            (planOf settings query formula) := by
      intro limit
      have hsame : symbols { settings with maxInstructions := limit } query.nodes =
          .ok emitted := by
        refine (symbols_eq_of_aliases ?_ query.nodes).trans hsymbols
        rfl
      exact (compile_yields hleaves hsame hderives).outcome
    have hfirst : ∀ limit, first limit = none ↔
        formula.largestExclusive settings.expansion ≤ limit :=
      fun limit => Formula.overrun?_eq_none_iff
    have hfound : ∀ limit < formula.largestExclusive settings.expansion,
        first limit = some ((first limit).getD 0) := by
      intro limit hlt
      cases hcase : first limit with
      | none => exact absurd ((hfirst limit).mp hcase) (Nat.not_le_of_lt hlt)
      | some position => rfl
    refine ⟨formula.largestExclusive settings.expansion, planOf settings query formula,
      fun limit => (first limit).getD 0, fun limit => ?_, fun limit hlt => ?_,
      fun limit larger hle hlt => ?_⟩
    · rw [hcompile, ← hfirst]
      cases first limit with
      | none => exact iff_of_true rfl rfl
      | some position => exact iff_of_false nofun nofun
    · rw [hcompile, hfound limit hlt]
      rfl
    · exact Formula.overrun?_le hle (hfound limit (Nat.lt_of_le_of_lt hle hlt)) (hfound larger hlt)

/-- Three flags of which one or all three are set, or one of two more. -/
def flagsOfUnequalSize : Query where
  nodes := [.leaf none (flagLeaf "fan"), .leaf (some .xor) (flagLeaf "rating"),
    .leaf (some .xor) (flagLeaf "stock"), .leaf (some .or) (flagLeaf "score"),
    .leaf (some .xor) (flagLeaf "price")]
  inverted := true

/-- The exclusive disjunctions have sizes of nine, twenty-five and again nine. -/
theorem exists_least_limit_flagsOfUnequalSize :
    ∃ emitted program, symbols .standard flagsOfUnequalSize.nodes = .ok emitted ∧
      Program.ofSymbols emitted = .ok program ∧
      ∃ (plan : Plan) (position : Nat → Nat),
        (∀ limit, (flagsOfUnequalSize.compile
          { Settings.standard with maxInstructions := limit }).outcome.1 = .ok plan ↔ 25 ≤ limit) ∧
        (∀ limit < 25, (flagsOfUnequalSize.compile
          { Settings.standard with maxInstructions := limit }).outcome.1 =
            .error (.query (.tooLarge limit (position limit)))) ∧
        position 8 = 2 ∧ position 9 = 4 ∧ position 24 = 4 := by
  obtain ⟨least, plan, position, hplan, hfault, -⟩ :=
    exists_least_limit .standard flagsOfUnequalSize _ _ rfl rfl
  have hbelow : ∀ limit place, (flagsOfUnequalSize.compile
      { Settings.standard with maxInstructions := limit }).outcome.1 =
        .error (.query (.tooLarge limit place)) → limit < least ∧ position limit = place := by
    intro limit place hrefused
    have hlt : limit < least := by
      by_contra hge
      rw [(hplan limit).mpr (Nat.le_of_not_lt hge)] at hrefused
      cases hrefused
    refine ⟨hlt, ?_⟩
    have hsame := (hfault limit hlt).symm.trans hrefused
    simpa using hsame
  have hleast : least = 25 := by
    have hlower := (hbelow 24 4 rfl).1
    have hupper : ¬25 < least := by
      intro hlt
      have hrefused := hfault 25 hlt
      cases hrefused
    omega
  subst hleast
  exact ⟨_, _, rfl, rfl, plan, position, hplan, hfault, (hbelow 8 2 rfl).2, (hbelow 9 4 rfl).2,
    (hbelow 24 4 rfl).2⟩

end Query

end FacetFilter
