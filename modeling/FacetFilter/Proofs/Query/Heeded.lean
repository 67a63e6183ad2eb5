import FacetFilter.Proofs.Decimal.Rounding
import FacetFilter.Proofs.Journal
import FacetFilter.Proofs.Query.Substitution

/-!
# What a query leaves unheeded

Three things may be written into a query and never matter: the link of the first of
some siblings, the value of a flag leaf, and the case of a number or flag leaf.  The
value of a flag is carried through every stage, within its condition; the others go
no further than the document.  Two queries that differ in these alone are refused
alike, or have plans of the same words that select the same entities.
-/

namespace FacetFilter

open Journaled

namespace Condition

/-- The condition with the value of a flag, which is never looked at, put to one side. -/
def heeded : Condition → Condition
  | .flag condition => .flag { condition with value := false }
  | condition => condition

theorem render_heeded (condition : Condition) : condition.heeded.render = condition.render := by
  cases condition <;> rfl

theorem flip_heeded (condition : Condition) : condition.heeded.flip = condition.flip.heeded := by
  cases condition <;> rfl

theorem column?_heeded (condition : Condition) : condition.heeded.column? = condition.column? := by
  cases condition <;> rfl

theorem select_heeded (catalog : Catalog) (condition : Condition) :
    condition.heeded.select catalog = condition.select catalog := by
  cases condition with
  | flag condition =>
      have haccepts : ({ condition with value := false } : FlagCondition).accepts =
          condition.accepts := by
        funext field
        cases field <;> rfl
      rw [heeded, select, select, haccepts]
  | text | number | label => rfl

end Condition

/-- The leaf without what is never looked at. -/
def Leaf.heeded : Leaf → Leaf
  | .number leaf => .number { leaf with caseSensitive := false }
  | .flag leaf => .flag { leaf with value := none, caseSensitive := false }
  | leaf => leaf

namespace Query

/-- The query without what is never looked at: the first link of any siblings, the values of flag
leaves, and the case of flag and number leaves. -/
def heeded (query : Query) : Query :=
  ⟨Node.unlinkAllFirst (Node.mapAllLeaves Leaf.heeded query.nodes), query.inverted⟩

variable {settings : Settings}

theorem describes_heeded (settings : Settings) :
    Describes settings settings Leaf.heeded Condition.heeded := by
  intro leaf
  cases leaf with
  | text leaf =>
      simp only [Leaf.heeded, leafCondition, textCondition, map_bind, map_pure]
      rfl
  | number leaf =>
      simp only [Leaf.heeded, leafCondition, numberCondition, map_bind]
      congr 1; funext column
      congr 1; funext operation
      congr 1; funext comparison
      congr 1; funext literal
      cases literal.toNumber? <;> rfl
  | flag leaf =>
      simp only [Leaf.heeded, leafCondition, flagCondition, map_bind, map_pure]
      rfl
  | label kind leaf =>
      simp only [Leaf.heeded, leafCondition, labelCondition, map_bind]
      congr 1; funext operation
      cases LabelTest.ofText? (Text.trim operation) with
      | none => rfl
      | some test =>
          simp only [map_bind, map_pure]
          rfl

/-- The plan of what a query heeds is its plan but for the values of flags. -/
theorem compile_heeded (settings : Settings) (query : Query) :
    query.heeded.compile settings = Plan.substitute Condition.heeded <$> query.compile settings := by
  apply compile_substitute Condition.render_heeded Condition.flip_heeded
  · rw [heeded, symbols_unlinkAllFirst]
    exact symbols_mapAllLeaves (describes_heeded settings) query.nodes
  · rw [leafCount, heeded, Node.leafCounts_unlinkAllFirst, Node.leafCounts_mapAllLeaves, leafCount]
  · rw [heeded, Node.length_unlinkAllFirst, Node.length_mapAllLeaves]
  · rfl

/-- Two results that a change makes equal are the same fault or two values that it makes equal. -/
theorem exists_of_map_eq_map {α β : Type} {change : α → β} {first second : Except Fault α}
    (hsame : change <$> first = change <$> second) :
    (∃ fault, first = .error fault ∧ second = .error fault) ∨
      ∃ value other, first = .ok value ∧ second = .ok other ∧ change value = change other := by
  cases first with
  | error fault =>
      cases second with
      | error other =>
          cases hsame
          exact .inl ⟨fault, rfl, rfl⟩
      | ok other => cases hsame
  | ok value =>
      cases second with
      | error other => cases hsame
      | ok other => exact .inr ⟨value, other, rfl, rfl, Except.ok.inj hsame⟩

/-- Two queries that differ only in what is not looked at are refused with the same fault, or
have plans of the same words that end alike in every catalog. -/
theorem compile_congr_of_heeded (settings : Settings) (first second : Query)
    (hheeded : first.heeded = second.heeded) :
    (∃ fault, (first.compile settings).outcome.1 = .error fault ∧
        (second.compile settings).outcome.1 = .error fault) ∨
      ∃ plan other, (first.compile settings).outcome.1 = .ok plan ∧
        (second.compile settings).outcome.1 = .ok other ∧ plan.render = other.render ∧
          ∀ catalog : Catalog, (plan.execute catalog).outcome = (other.execute catalog).outcome := by
  have hfirst := compile_heeded settings first
  have hsecond := compile_heeded settings second
  -- Both compilations come from that of the query that they heed.
  have hsame : Plan.substitute Condition.heeded <$> (first.compile settings).outcome.1 =
      Plan.substitute Condition.heeded <$> (second.compile settings).outcome.1 := by
    have houtcome := congrArg (fun computation => computation.outcome.1)
      (hfirst.symm.trans (hheeded ▸ hsecond))
    simpa only [outcome_map] using houtcome
  rcases exists_of_map_eq_map hsame with hfault | ⟨plan, other, hplan, hother, hplans⟩
  · exact .inl hfault
  refine .inr ⟨plan, other, hplan, hother, ?_, ?_⟩
  · rw [← plan.render_substitute Condition.render_heeded, hplans,
      other.render_substitute Condition.render_heeded]
  · intro catalog
    have hselect := Condition.select_heeded catalog
    rw [← plan.execute_substitute Condition.column?_heeded hselect, hplans,
      other.execute_substitute Condition.column?_heeded hselect]

/-- A fan, or no score below zero and not none, and not both.  What is never looked at is left
open. -/
def fanXorScore (link : Option Junction) (value : Option Literal) (caseSensitive : Bool) :
    Query where
  nodes := [.leaf link (.flag ⟨some "fan", none, value, false, false, caseSensitive⟩),
    .group (some .xor) true
      [.leaf link (.number ⟨some "score", some "<",
        some (.number (.finite false 0 representable_zero)), false, true, caseSensitive⟩)]]
  inverted := true

/-- Settings in which leaves are flipped. -/
def flippingSettings : Settings := ⟨.empty, .flipLeaves, 64⟩

/-- The plans differ in the value of a flag, as the documents do, and in nothing that shows. -/
theorem compile_congr_of_heeded_fanXorScore :
    (fanXorScore none none false).heeded =
        (fanXorScore (some .or) (some (.bool true)) true).heeded ∧
      ∃ plan other, ((fanXorScore none none false).compile flippingSettings).outcome.1 = .ok plan ∧
        ((fanXorScore (some .or) (some (.bool true)) true).compile flippingSettings).outcome.1 =
          .ok other ∧
        (plan == other) = false ∧ plan.render = other.render ∧
          ∀ catalog : Catalog,
            (plan.execute catalog).outcome = (other.execute catalog).outcome := by
  have hheeded : (fanXorScore none none false).heeded =
      (fanXorScore (some .or) (some (.bool true)) true).heeded := rfl
  refine ⟨hheeded, ?_⟩
  rcases compile_congr_of_heeded flippingSettings _ _ hheeded with
    ⟨fault, hfault, -⟩ | ⟨plan, other, hplan, hother, hrender, hexecute⟩
  · cases hfault
  · refine ⟨plan, other, hplan, hother, ?_, hrender, hexecute⟩
    cases hplan
    cases hother
    rfl

end Query

end FacetFilter
