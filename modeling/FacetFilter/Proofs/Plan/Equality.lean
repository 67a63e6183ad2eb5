import FacetFilter.Plan.Compilation
import FacetFilter.Proofs.Decimal.Rounding
import FacetFilter.Proofs.Program.Substitution

/-!
# Equal plans

Plans are compared by the values of their numbers, and two doubles may be equal in
value and be told apart by the sign of a zero.  That sign is all that is lost: equal
plans become the same plan once their zeros have none, and no comparison with a field
ever asks for it.
-/

namespace FacetFilter

namespace Binary64

/-- The value with a zero that is not negative. -/
def unsignedZero : Binary64 → Binary64
  | .finite true 0 hrepresentable => .finite false 0 hrepresentable
  | value => value

theorem position_unsignedZero (value : Binary64) : value.unsignedZero.position = value.position := by
  rcases value with _ | negative | ⟨_ | _, _ | units, hrepresentable⟩ <;> rfl

/-- Where a value lies settles its magnitude and, but for a zero, its sign. -/
theorem unsignedZero_of_position {value : Binary64} {place : Int}
    (hplace : value.position = some place) :
    (place.natAbs = unitsBound ∧ value.unsignedZero = .infinite (place < 0)) ∨
      ∃ hrepresentable, value.unsignedZero = .finite (place < 0) place.natAbs hrepresentable := by
  have hbound : 0 < unitsBound := powerOfTwo_pos 2098
  cases value with
  | nan => cases hplace
  | infinite negative =>
      cases hplace
      left
      have hplain : (infinite negative).unsignedZero = infinite negative := rfl
      rw [hplain]
      generalize unitsBound = bound at hbound ⊢
      cases negative <;> simp [hbound]
  | finite negative units hrepresentable =>
      cases hplace
      right
      cases negative with
      | false =>
          have hsign : decide ((units : Int) < 0) = false := decide_eq_false (by omega)
          exact ⟨hrepresentable, congrArg (finite · units hrepresentable) hsign.symm⟩
      | true =>
          have hunits : Representable (-(units : Int)).natAbs := by
            rw [Int.natAbs_neg]
            exact hrepresentable
          refine ⟨hunits, ?_⟩
          -- A negative zero lies where the other one does, and is the only value that changes.
          cases units with
          | zero => rfl
          | succ units =>
              have hsign : decide (-((units + 1 : Nat) : Int) < 0) = true :=
                decide_eq_true (by omega)
              exact congrArg (finite · (units + 1) hrepresentable) hsign.symm

theorem unsignedZero_eq_of_position {left right : Binary64} {place : Int}
    (hleft : left.position = some place) (hright : right.position = some place) :
    left.unsignedZero = right.unsignedZero := by
  rcases unsignedZero_of_position hleft with ⟨hat, hleft⟩ | ⟨hwithin, hleft⟩ <;>
    rcases unsignedZero_of_position hright with ⟨hat', hright⟩ | ⟨hwithin', hright⟩
  · rw [hleft, hright]
  · exact absurd hat (Nat.ne_of_lt hwithin'.1)
  · exact absurd hat' (Nat.ne_of_lt hwithin.1)
  · rw [hleft, hright]

/-- Equal values differ in the sign of a zero at most. -/
theorem unsignedZero_eq_of_beq {left right : Binary64} (hequal : (left == right) = true) :
    left.unsignedZero = right.unsignedZero := by
  change (left.compare? right == some .eq) = true at hequal
  rw [beq_iff_eq, compare?] at hequal
  split at hequal
  · next first second hfirst hsecond =>
      have hsame : first = second := Std.compare_eq_iff_eq.mp (Option.some.inj hequal)
      exact unsignedZero_eq_of_position hfirst (hsame ▸ hsecond)
  · cases hequal

theorem compare?_unsignedZero (value bound : Binary64) :
    value.compare? bound.unsignedZero = value.compare? bound := by
  rw [compare?, compare?, position_unsignedZero]

end Binary64

namespace Condition

/-- The condition with a bound that is no negative zero. -/
def unsignedZero : Condition → Condition
  | .number condition => .number { condition with value := condition.value.unsignedZero }
  | condition => condition

theorem column?_unsignedZero (condition : Condition) :
    condition.unsignedZero.column? = condition.column? := by
  cases condition <;> rfl

theorem select_unsignedZero (catalog : Catalog) (condition : Condition) :
    condition.unsignedZero.select catalog = condition.select catalog := by
  cases condition with
  | number condition =>
      have haccepts : ({ condition with value := condition.value.unsignedZero } :
          NumberCondition).accepts = condition.accepts := by
        funext field
        cases field with
        | number value =>
            simp only [NumberCondition.accepts, FieldValue.compareNumber?,
              Binary64.compare?_unsignedZero]
        | null | bool | text => rfl
      rw [unsignedZero, select, select, haccepts]
  | text | flag | label => rfl

/-- Equal conditions are the same but for the sign of a zero. -/
theorem unsignedZero_eq_of_beq {condition other : Condition}
    (hequal : (condition == other) = true) : condition.unsignedZero = other.unsignedZero := by
  cases condition with
  | number condition =>
      cases other with
      | number other =>
          obtain ⟨column, comparison, value, inverted, showNull⟩ := condition
          obtain ⟨column', comparison', value', inverted', showNull'⟩ := other
          have hparts : (column == column' && (comparison == comparison' && (value == value' &&
              (inverted == inverted' && showNull == showNull')))) = true := hequal
          simp only [Bool.and_eq_true, beq_iff_eq] at hparts
          obtain ⟨rfl, rfl, hvalue, rfl, rfl⟩ := hparts
          rw [unsignedZero, unsignedZero, Binary64.unsignedZero_eq_of_beq hvalue]
      | text | flag | label => cases hequal
  | text condition =>
      cases other with
      | text other =>
          have hsame : condition = other := beq_iff_eq.mp hequal
          rw [hsame]
      | number | flag | label => cases hequal
  | flag condition =>
      cases other with
      | flag other =>
          have hsame : condition = other := beq_iff_eq.mp hequal
          rw [hsame]
      | text | number | label => cases hequal
  | label kind condition =>
      cases other with
      | label kind' other =>
          have hsame : (kind == kind' && condition == other) = true := hequal
          rw [Bool.and_eq_true, beq_iff_eq, beq_iff_eq] at hsame
          rw [hsame.1, hsame.2]
      | text | number | flag => cases hequal

end Condition

theorem Instruction.unsignedZero_eq_of_beq {instruction other : Instruction}
    (hequal : (instruction == other) = true) :
    instruction.substitute Condition.unsignedZero = other.substitute Condition.unsignedZero := by
  cases instruction with
  | leaf condition =>
      cases other with
      | leaf other => exact congrArg leaf (Condition.unsignedZero_eq_of_beq hequal)
      | operator => cases hequal
  | operator operation =>
      cases other with
      | operator other =>
          have hsame : operation = other := beq_iff_eq.mp hequal
          rw [hsame]
      | leaf => cases hequal

theorem Program.unsignedZero_eq_of_beq {program other : Program}
    (hequal : (program == other) = true) :
    program.substitute Condition.unsignedZero = other.substitute Condition.unsignedZero := by
  induction program generalizing other with
  | nil =>
      cases other with
      | nil => rfl
      | cons => cases hequal
  | cons instruction program ih =>
      cases other with
      | nil => cases hequal
      | cons head tail =>
          rw [List.cons_beq_cons, Bool.and_eq_true] at hequal
          rw [substitute, substitute, List.map_cons, List.map_cons,
            Instruction.unsignedZero_eq_of_beq hequal.1]
          exact congrArg _ (ih hequal.2)

namespace Plan

/-- Equal plans are the same but for the sign of a zero. -/
theorem unsignedZero_eq_of_beq {plan other : Plan} (hequal : (plan == other) = true) :
    plan.substitute Condition.unsignedZero = other.substitute Condition.unsignedZero := by
  obtain ⟨program, inverted⟩ := plan
  obtain ⟨program', inverted'⟩ := other
  have hparts : (program == program' && inverted == inverted') = true := hequal
  obtain ⟨hprogram, hinverted⟩ := Bool.and_eq_true_iff.mp hparts
  rw [substitute, substitute, Program.unsignedZero_eq_of_beq hprogram, beq_iff_eq.mp hinverted]

/-- Equal plans select the same entities of every catalog or have the same fault there, and so do
equal conditions. -/
theorem execute_and_select_congr_of_beq (catalog : Catalog) :
    (∀ plan other : Plan, (plan == other) = true →
        (plan.execute catalog).outcome = (other.execute catalog).outcome) ∧
      ∀ condition other : Condition, (condition == other) = true →
        condition.select catalog = other.select catalog := by
  have hselect := Condition.select_unsignedZero catalog
  constructor
  · intro plan other hequal
    rw [← plan.execute_substitute Condition.column?_unsignedZero hselect,
      unsignedZero_eq_of_beq hequal,
      other.execute_substitute Condition.column?_unsignedZero hselect]
  · intro condition other hequal
    rw [← hselect condition, Condition.unsignedZero_eq_of_beq hequal, hselect other]

/-- A score of zero or a fan and not both; the zero is written with a sign or without one. -/
def zeroXorFan (negative : Bool) : Query where
  nodes := [.leaf none (.number ⟨some "score", some "==",
      some (.number (.finite negative 0 representable_zero)), false, false, false⟩),
    .leaf (some .xor) (.flag ⟨some "fan", none, none, false, false, false⟩)]
  inverted := false

/-- Both zeros, one of them of a fan. -/
def bothZeros : Catalog :=
  (Catalog.empty.add ⟨1, .ofList [("score", .number (.finite true 0 representable_zero))],
    [], []⟩).add ⟨2, .ofList [("fan", .bool true),
      ("score", .number (.finite false 0 representable_zero))], [], []⟩

/-- The condition that the score is zero, with a sign or without one. -/
def zeroScore (negative : Bool) : Condition :=
  .number ⟨"score", .equal, .finite negative 0 representable_zero, false, false⟩

/-- Plans and conditions that are told apart by the sign of a zero are equal, and select alike. -/
theorem execute_and_select_congr_of_beq_zeroXorFan :
    (∃ plan other, ((zeroXorFan false).compile .standard).outcome.1 = .ok plan ∧
      ((zeroXorFan true).compile .standard).outcome.1 = .ok other ∧ plan ≠ other ∧
        (plan == other) = true ∧
          (plan.execute bothZeros).outcome.1 = .ok (Ascending.ofList [1]) ∧
            (other.execute bothZeros).outcome.1 = .ok (Ascending.ofList [1])) ∧
      zeroScore false ≠ zeroScore true ∧ (zeroScore false == zeroScore true) = true ∧
        (zeroScore false).select bothZeros = .ok (Ascending.ofList [1, 2]) ∧
          (zeroScore true).select bothZeros = .ok (Ascending.ofList [1, 2]) := by
  obtain ⟨hplans, hconditions⟩ := execute_and_select_congr_of_beq bothZeros
  constructor
  · obtain ⟨plan, hplan⟩ :
        ∃ plan, ((zeroXorFan false).compile .standard).outcome.1 = .ok plan := ⟨_, rfl⟩
    obtain ⟨other, hother⟩ :
        ∃ plan, ((zeroXorFan true).compile .standard).outcome.1 = .ok plan := ⟨_, rfl⟩
    have hequal : (plan == other) = true := by
      cases hplan
      cases hother
      rfl
    have hselected : (plan.execute bothZeros).outcome.1 = .ok (Ascending.ofList [1]) := by
      cases hplan
      rfl
    have hsame := hplans plan other hequal
    refine ⟨plan, other, hplan, hother, ?_, hequal, hselected, hsame ▸ hselected⟩
    cases hplan
    cases hother
    nofun
  · have hsame := hconditions (zeroScore false) (zeroScore true) rfl
    exact ⟨nofun, rfl, rfl, hsame ▸ rfl⟩

end Plan

end FacetFilter
