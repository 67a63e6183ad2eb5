import FacetFilter.Proofs.Program.Expansion

/-!
# The limit on written-out operands

An exclusive disjunction is held against the limit when its turn comes in the
program, by the size that it has once both operands are negated by an instruction.
The first one past the limit is named, and where there is none the program is
written out.  Where leaves are flipped instead, up to two instructions fewer are
written than were counted.
-/

namespace FacetFilter

namespace Formula

/-- Where two listings end alike, they end in the same formula. -/
theorem eq_of_append_program {first second : Formula} {before before' : Program}
    (hlisting : before ++ first.program = before' ++ second.program) :
    first = second ∧ before = before' := by
  induction first generalizing before before' second with
  | leaf condition =>
      cases second with
      | leaf condition' => simpa [and_comm] using hlisting
      | negation | join => simp [← List.append_assoc] at hlisting
  | negation operand ih =>
      cases second with
      | negation operand' =>
          simp only [program_negation, ← List.append_assoc, List.append_left_inj] at hlisting
          obtain ⟨rfl, hbefore⟩ := ih hlisting
          exact ⟨rfl, hbefore⟩
      | leaf | join => simp [← List.append_assoc] at hlisting
  | join junction left right ihLeft ihRight =>
      cases second with
      | join junction' left' right' =>
          simp only [program_join, ← List.append_assoc] at hlisting
          obtain ⟨hoperands, hlast⟩ := List.append_inj' hlisting rfl
          cases hlast
          obtain ⟨rfl, hleft⟩ := ihRight hoperands
          obtain ⟨rfl, hbefore⟩ := ihLeft hleft
          exact ⟨rfl, hbefore⟩
      | leaf | negation => simp [← List.append_assoc] at hlisting

end Formula

namespace Program

/-! ## The exclusive disjunctions of a program -/

/-- At `position` stands an exclusive disjunction, and its operands are the two formulas that
are listed right before it. -/
def ExclusiveAt (program : Program) (position : Nat) (left right : Formula) : Prop :=
  ∃ before after : Program,
    program = before ++ left.program ++ right.program ++ .operator (.join .xor) :: after ∧
      position = (before ++ left.program ++ right.program).length

/-- Of the exclusive disjunctions that measure more than the limit, the one at `position` comes
first. -/
structure FirstPast (measure : Formula → Formula → Nat) (limit : Nat) (program : Program)
    (position : Nat) : Prop where
  past : ∃ left right, program.ExclusiveAt position left right ∧ limit < measure left right
  first : ∀ earlier left right, program.ExclusiveAt earlier left right → earlier < position →
    measure left right ≤ limit

variable {program : Program} {position : Nat} {left right : Formula}

theorem ExclusiveAt.lt_length (hexclusive : program.ExclusiveAt position left right) :
    position < program.length := by
  obtain ⟨before, after, rfl, rfl⟩ := hexclusive
  simp

/-- Right before a junction in a listing stand the listings of its operands. -/
theorem exists_operands {formula : Formula} {before after : Program} {junction : Junction}
    (hlisting : formula.program = before ++ .operator (.join junction) :: after) :
    ∃ (rest : Program) (left right : Formula), before = rest ++ left.program ++ right.program := by
  have hheight : height? 0 (before ++ .operator (.join junction) :: after) = some 1 := by
    rw [← hlisting]
    exact height?_listOnto formula 0 []
  rw [height?, List.foldlM_append] at hheight
  obtain ⟨height, hbefore, hafter⟩ := Option.bind_eq_some_iff.mp hheight
  obtain ⟨formulas, hlength, hformulas⟩ := exists_formulas before [] hbefore
  rcases formulas with _ | ⟨right, _ | ⟨left, rest⟩⟩
  · subst hlength
    cases hafter
  · subst hlength
    cases hafter
  · exact ⟨rest.reverse.flatMap Formula.program, left, right, by simpa using hformulas.symm⟩

theorem not_exclusiveAt_leaf (condition : Condition) :
    ¬ExclusiveAt [.leaf condition] position left right := by
  rintro ⟨before, after, hlisting, -⟩
  have hmem : Instruction.operator (.join .xor) ∈ [Instruction.leaf condition] := by
    rw [hlisting]
    simp
  simp at hmem

theorem exclusiveAt_append_operator {operator : Operator} :
    ExclusiveAt (program ++ [.operator operator]) position left right ↔
      program.ExclusiveAt position left right ∨
        operator = .join .xor ∧ position = program.length ∧
          ∃ before, program = before ++ left.program ++ right.program := by
  constructor
  · rintro ⟨before, after, hlisting, rfl⟩
    rcases List.eq_nil_or_concat after with rfl | ⟨after, last, rfl⟩
    · obtain ⟨rfl, hlast⟩ := List.append_inj' hlisting rfl
      cases hlast
      exact .inr ⟨rfl, rfl, before, rfl⟩
    · rw [List.concat_eq_append, ← List.cons_append, ← List.append_assoc] at hlisting
      obtain ⟨rfl, -⟩ := List.append_inj' hlisting rfl
      exact .inl ⟨before, after, rfl, rfl⟩
  · rintro (⟨before, after, rfl, rfl⟩ | ⟨rfl, rfl, before, rfl⟩)
    · exact ⟨before, after ++ [.operator operator], by simp, rfl⟩
    · exact ⟨before, [], rfl, rfl⟩

/-- An exclusive disjunction behind a program and in a listing has its operands in the listing. -/
theorem exclusiveAt_append_program {formula : Formula} :
    ExclusiveAt (program ++ formula.program) position left right ↔
      program.ExclusiveAt position left right ∨
        ∃ offset, position = program.length + offset ∧
          formula.program.ExclusiveAt offset left right := by
  constructor
  · rintro ⟨before, after, hlisting, rfl⟩
    -- The junction itself stands in the program or in the listing.
    have hwhere : (∃ more, program = before ++ left.program ++ right.program ++
          .operator (.join .xor) :: more) ∨
        ∃ within, before ++ left.program ++ right.program = program ++ within ∧
          formula.program = within ++ .operator (.join .xor) :: after := by
      rcases List.append_eq_append_iff.mp hlisting with
        ⟨within, hbefore, hafter⟩ | ⟨more, hprogram, hafter⟩
      · exact .inr ⟨within, hbefore, hafter⟩
      · rcases more with _ | ⟨head, more⟩
        · exact .inr ⟨[], by simpa using hprogram.symm, by simpa using hafter.symm⟩
        · cases hafter
          exact .inl ⟨more, hprogram⟩
    rcases hwhere with ⟨more, rfl⟩ | ⟨within, hbefore, hformula⟩
    · exact .inl ⟨before, more, rfl, rfl⟩
    · obtain ⟨rest, left', right', rfl⟩ := exists_operands hformula
      rw [← List.append_assoc, ← List.append_assoc] at hbefore
      obtain ⟨rfl, hleft⟩ := Formula.eq_of_append_program hbefore
      obtain ⟨rfl, rfl⟩ := Formula.eq_of_append_program hleft
      exact .inr ⟨_, by simp, rest, after, hformula, rfl⟩
  · rintro (⟨before, after, rfl, rfl⟩ | ⟨offset, rfl, before, after, hlisting, rfl⟩)
    · exact ⟨before, after ++ formula.program, by simp, rfl⟩
    · exact ⟨program ++ before, after, by simp [hlisting], by simp⟩

/-- The exclusive disjunctions of a joined formula are those of its operands, and the junction
itself where it is one. -/
theorem exclusiveAt_join {junction : Junction} {first second : Formula} :
    (Formula.join junction first second).program.ExclusiveAt position left right ↔
      first.program.ExclusiveAt position left right ∨
        (∃ offset, position = first.size + offset ∧
          second.program.ExclusiveAt offset left right) ∨
          junction = .xor ∧ position = first.size + second.size ∧ left = first ∧
            right = second := by
  have hown : (∃ before, first.program ++ second.program =
      before ++ left.program ++ right.program) ↔ left = first ∧ right = second := by
    constructor
    · rintro ⟨before, hlisting⟩
      obtain ⟨rfl, hbefore⟩ := Formula.eq_of_append_program hlisting
      have hleft : [] ++ first.program = before ++ left.program := hbefore
      obtain ⟨rfl, -⟩ := Formula.eq_of_append_program hleft
      exact ⟨rfl, rfl⟩
    · rintro ⟨rfl, rfl⟩
      exact ⟨[], rfl⟩
  rw [Formula.program_join, exclusiveAt_append_operator, exclusiveAt_append_program, hown,
    List.length_append, first.length_program, second.length_program, or_assoc]
  simp

end Program

/-! ## Sizes of written-out operands -/

namespace Formula

/-- The size of the exclusive disjunction of two formulas as an expansion writes it out. -/
def emittedSize (expansion : Expansion) (left right : Formula) : Nat :=
  ((join .xor left right).expanded expansion).size

/-- The size that is held against the limit: the operands are written out by the expansion and
then negated by an instruction each. -/
def checkedSize (expansion : Expansion) (left right : Formula) : Nat :=
  ((left.expanded expansion).exclusive .complement (right.expanded expansion)).size

/-- The instructions that an expansion saves when it negates a formula. -/
def savedInstructions : Expansion → Formula → Nat
  | .flipLeaves, .leaf _ => 1
  | _, _ => 0

theorem projectedSize_eq_size (left right : Formula) :
    left.projectedSize right = (left.exclusive .complement right).size := by
  simp only [projectedSize, exclusive, opposite, size]
  omega

theorem size_opposite (expansion : Expansion) (operand : Formula) :
    (operand.opposite expansion).size + operand.savedInstructions expansion = operand.size + 1 := by
  cases expansion with
  | complement => rfl
  | flipLeaves => cases operand <;> rfl

theorem savedInstructions_expanded (expansion : Expansion) (operand : Formula) :
    (operand.expanded expansion).savedInstructions expansion =
      operand.savedInstructions expansion := by
  cases expansion with
  | complement => cases operand <;> rfl
  | flipLeaves =>
      rcases operand with _ | _ | ⟨junction, _, _⟩
      · rfl
      · rfl
      · cases junction <;> rfl

/-- The limit is held against what is emitted and the instructions saved. -/
theorem checkedSize_eq (expansion : Expansion) (left right : Formula) :
    left.checkedSize expansion right =
      left.emittedSize expansion right + left.savedInstructions expansion +
        right.savedInstructions expansion := by
  have hleft := (left.expanded expansion).size_opposite expansion
  have hright := (right.expanded expansion).size_opposite expansion
  rw [savedInstructions_expanded] at hleft hright
  rw [checkedSize, ← projectedSize_eq_size, projectedSize, emittedSize, expanded, exclusive]
  simp only [size]
  omega

theorem projectedSize_le {left right left' right' : Formula} (hleft : left.size ≤ left'.size)
    (hright : right.size ≤ right'.size) : left.projectedSize right ≤ left'.projectedSize right' := by
  simp only [projectedSize]
  omega

/-- No expansion writes out more than complements do. -/
theorem size_expanded_le_complement (expansion : Expansion) (formula : Formula) :
    (formula.expanded expansion).size ≤ (formula.expanded .complement).size := by
  induction formula with
  | leaf condition => exact Nat.le_refl 1
  | negation operand ih => exact Nat.succ_le_succ ih
  | join junction left right ihLeft ihRight =>
      cases junction with
      | and | or =>
          simp only [expanded, size]
          omega
      | xor =>
          calc (left.emittedSize expansion right)
              ≤ left.checkedSize expansion right := by
                rw [checkedSize_eq]
                omega
            _ ≤ left.checkedSize .complement right := by
                rw [checkedSize, checkedSize, ← projectedSize_eq_size, ← projectedSize_eq_size]
                exact projectedSize_le ihLeft ihRight
            _ = left.emittedSize .complement right := checkedSize_eq .complement left right

/-- How long a written-out formula may become: an exclusive disjunction stays within the limit,
and what joins or negates adds one instruction each. -/
def ceiling (limit : Nat) : Formula → Nat
  | .leaf _ => 1
  | .negation operand => operand.ceiling limit + 1
  | .join .xor _ _ => limit
  | .join _ left right => left.ceiling limit + right.ceiling limit + 1

/-! ## The first exclusive disjunction past the limit -/

variable {settings : Settings}

theorem checkedSize_le_of_overrun? {formula left right : Formula} {start position : Nat}
    (hoverrun : formula.overrun? settings start = none)
    (hexclusive : formula.program.ExclusiveAt position left right) :
    left.checkedSize settings.expansion right ≤ settings.maxInstructions := by
  induction formula generalizing start position with
  | leaf condition => exact absurd hexclusive (Program.not_exclusiveAt_leaf condition)
  | negation operand ih =>
      rw [program_negation, Program.exclusiveAt_append_operator] at hexclusive
      rcases hexclusive with hexclusive | ⟨hoperator, -⟩
      · exact ih hoverrun hexclusive
      · cases hoperator
  | join junction first second ihFirst ihSecond =>
      rw [overrun?, Option.or_eq_none_iff, Option.or_eq_none_iff] at hoverrun
      obtain ⟨hfirst, hsecond, hown⟩ := hoverrun
      rcases Program.exclusiveAt_join.mp hexclusive with
        hexclusive | ⟨offset, -, hexclusive⟩ | ⟨rfl, -, rfl, rfl⟩
      · exact ihFirst hfirst hexclusive
      · exact ihSecond hsecond hexclusive
      · rw [checkedSize, ← projectedSize_eq_size]
        simpa using hown

theorem size_expanded_le_ceiling {formula : Formula} {start : Nat}
    (hoverrun : formula.overrun? settings start = none) :
    (formula.expanded settings.expansion).size ≤ formula.ceiling settings.maxInstructions := by
  induction formula generalizing start with
  | leaf condition => exact Nat.le_refl 1
  | negation operand ih => exact Nat.succ_le_succ (ih hoverrun)
  | join junction left right ihLeft ihRight =>
      rw [overrun?, Option.or_eq_none_iff, Option.or_eq_none_iff] at hoverrun
      obtain ⟨hleft, hright, hown⟩ := hoverrun
      have hleftSize := ihLeft hleft
      have hrightSize := ihRight hright
      cases junction with
      | and | or =>
          simp only [expanded, ceiling, size]
          omega
      | xor =>
          have hchecked := checkedSize_eq settings.expansion left right
          rw [checkedSize, ← projectedSize_eq_size, emittedSize] at hchecked
          rw [ceiling]
          simp only [true_and, ite_eq_right_iff, reduceCtorEq, imp_false, Nat.not_lt] at hown
          omega

/-- What keeps to the limit by complement keeps to it by any expansion. -/
theorem overrun?_eq_none_of_complement {formula : Formula} {start : Nat} (expansion : Expansion)
    (hcomplement : settings.expansion = .complement)
    (hoverrun : formula.overrun? settings start = none) :
    formula.overrun? { settings with expansion } start = none := by
  induction formula generalizing start with
  | leaf condition => rfl
  | negation operand ih => exact ih hoverrun
  | join junction left right ihLeft ihRight =>
      rw [overrun?, Option.or_eq_none_iff, Option.or_eq_none_iff, hcomplement] at hoverrun
      obtain ⟨hleft, hright, hown⟩ := hoverrun
      rw [overrun?, ihLeft hleft, ihRight hright, Option.none_or, Option.none_or, if_neg]
      rintro ⟨rfl, hpast⟩
      have hprojected := projectedSize_le (left.size_expanded_le_complement expansion)
        (right.size_expanded_le_complement expansion)
      simp only [true_and, ite_eq_right_iff, reduceCtorEq, imp_false, Nat.not_lt] at hown
      exact absurd (Nat.lt_of_lt_of_le hpast hprojected) (Nat.not_lt.mpr hown)

/-- What is reported is the first exclusive disjunction past the limit. -/
theorem firstPast_of_overrun? {formula : Formula} {start position : Nat}
    (hoverrun : formula.overrun? settings start = some position) :
    ∃ offset, position = start + offset ∧
      formula.program.FirstPast (checkedSize settings.expansion) settings.maxInstructions
        offset := by
  induction formula generalizing start position with
  | leaf condition => cases hoverrun
  | negation operand ih =>
      obtain ⟨offset, hposition, ⟨left, right, hexclusive, hpast⟩, hfirst⟩ := ih hoverrun
      have hiff : ∀ other left right, (negation operand).program.ExclusiveAt other left right ↔
          operand.program.ExclusiveAt other left right := by
        intro other left right
        rw [program_negation, Program.exclusiveAt_append_operator]
        simp
      refine ⟨offset, hposition, ⟨left, right, (hiff _ _ _).mpr hexclusive, hpast⟩, ?_⟩
      intro earlier left right hearlier
      exact hfirst earlier left right ((hiff _ _ _).mp hearlier)
  | join junction first second ihFirst ihSecond =>
      rw [overrun?, Option.or_eq_some_iff, Option.or_eq_some_iff] at hoverrun
      rcases hoverrun with hoverrun | ⟨hnone, hoverrun | ⟨hnone', hown⟩⟩
      · obtain ⟨offset, hposition, ⟨left, right, hexclusive, hpast⟩, hearlier⟩ := ihFirst hoverrun
        have hwithin := hexclusive.lt_length
        rw [first.length_program] at hwithin
        refine ⟨offset, hposition,
          ⟨left, right, Program.exclusiveAt_join.mpr (.inl hexclusive), hpast⟩, ?_⟩
        intro earlier left right hother hlt
        rcases Program.exclusiveAt_join.mp hother with hinner | ⟨_, rfl, -⟩ | ⟨-, rfl, -⟩
        · exact hearlier earlier left right hinner hlt
        · omega
        · omega
      · obtain ⟨offset, rfl, ⟨left, right, hexclusive, hpast⟩, hearlier⟩ := ihSecond hoverrun
        have hwithin := hexclusive.lt_length
        rw [second.length_program] at hwithin
        refine ⟨first.size + offset, Nat.add_assoc .., ⟨left, right,
          Program.exclusiveAt_join.mpr (.inr (.inl ⟨offset, rfl, hexclusive⟩)), hpast⟩, ?_⟩
        intro earlier left right hother hlt
        rcases Program.exclusiveAt_join.mp hother with hinner | ⟨other, rfl, hinner⟩ | ⟨-, rfl, -⟩
        · exact checkedSize_le_of_overrun? hnone hinner
        · exact hearlier other left right hinner (by omega)
        · omega
      · rw [Option.ite_none_right_eq_some] at hown
        obtain ⟨⟨rfl, hpast⟩, hposition⟩ := hown
        cases hposition
        rw [projectedSize_eq_size] at hpast
        refine ⟨first.size + second.size, Nat.add_assoc .., ⟨first, second,
          Program.exclusiveAt_join.mpr (.inr (.inr ⟨rfl, rfl, rfl, rfl⟩)), hpast⟩, ?_⟩
        intro earlier left right hother hlt
        rcases Program.exclusiveAt_join.mp hother with hinner | ⟨_, -, hinner⟩ | ⟨-, rfl, -⟩
        · exact checkedSize_le_of_overrun? hnone hinner
        · exact checkedSize_le_of_overrun? hnone' hinner
        · omega

end Formula

namespace Program

/-- Past a larger limit, the first exclusive disjunction comes no earlier. -/
theorem FirstPast.le {measure : Formula → Formula → Nat} {limit larger : Nat} {program : Program}
    {position other : Nat} (hposition : program.FirstPast measure limit position)
    (hother : program.FirstPast measure larger other) (hlimit : limit ≤ larger) :
    position ≤ other := by
  obtain ⟨left, right, hexclusive, hpast⟩ := hother.past
  by_contra hlt
  have hbound := hposition.first other left right hexclusive (Nat.lt_of_not_le hlt)
  omega

theorem FirstPast.unique {measure : Formula → Formula → Nat} {limit : Nat} {program : Program}
    {position other : Nat} (hposition : program.FirstPast measure limit position)
    (hother : program.FirstPast measure limit other) : position = other :=
  Nat.le_antisymm (hposition.le hother (Nat.le_refl limit))
    (hother.le hposition (Nat.le_refl limit))

/-- Writing out a well-formed program names the first exclusive disjunction whose operands,
written out and then negated by an instruction each, pass the limit.  Where none does, the
program is written out.  What is emitted is as long as what is counted but for the leaves that
an expansion flips. -/
theorem expand_eq_tooLarge_iff (settings : Settings) (program : Program)
    (hwell : program.WellFormed) :
    (∀ limit position,
      (program.expand settings).outcome.1 = .error (.query (.tooLarge limit position)) ↔
        limit = settings.maxInstructions ∧
          program.FirstPast (Formula.checkedSize settings.expansion) settings.maxInstructions
            position) ∧
      ((∀ position left right, program.ExclusiveAt position left right →
          Formula.checkedSize settings.expansion left right ≤ settings.maxInstructions) →
        ∃ expanded, (program.expand settings).outcome.1 = .ok expanded) ∧
      ∀ left right, Formula.checkedSize settings.expansion left right =
        Formula.emittedSize settings.expansion left right +
          left.savedInstructions settings.expansion +
            right.savedInstructions settings.expansion := by
  obtain ⟨formula, rfl⟩ := (wellFormed_iff program).mp hwell
  rw [(expand_yields settings formula).outcome, Formula.sizeFault?]
  cases hoverrun : formula.overrun? settings 0 with
  | none =>
      have hwithin : ∀ position left right, formula.program.ExclusiveAt position left right →
          Formula.checkedSize settings.expansion left right ≤ settings.maxInstructions := by
        intro position left right hexclusive
        exact Formula.checkedSize_le_of_overrun? hoverrun hexclusive
      refine ⟨fun limit position => ⟨?_, ?_⟩, fun _ => ⟨_, rfl⟩,
        Formula.checkedSize_eq settings.expansion⟩
      · intro heq
        cases heq
      · rintro ⟨-, ⟨left, right, hexclusive, hpast⟩, -⟩
        have hbound := hwithin position left right hexclusive
        omega
  | some found =>
      obtain ⟨offset, hfound, hfirst⟩ := Formula.firstPast_of_overrun? hoverrun
      rw [Nat.zero_add] at hfound
      subst hfound
      refine ⟨fun limit position => ⟨?_, ?_⟩, ?_, Formula.checkedSize_eq settings.expansion⟩
      · intro heq
        cases heq
        exact ⟨rfl, hfirst⟩
      · rintro ⟨rfl, hposition⟩
        rw [hposition.unique hfirst]
        rfl
      · intro hall
        obtain ⟨left, right, hexclusive, hpast⟩ := hfirst.past
        have hbound := hall found left right hexclusive
        omega

/-- Two flags joined by an exclusive disjunction. -/
def fanXorStock : Program :=
  [.leaf (.flag (.onColumn "fan")), .leaf (.flag (.onColumn "stock")), .operator (.join .xor)]

/-- Chained disjunctions of nine and twenty-five instructions, and a limit between them. -/
theorem expand_eq_tooLarge_iff_chainedFlags :
    chainedFlags.WellFormed ∧
      (chainedFlags.expand ⟨.empty, .complement, 20⟩).outcome.1 =
          .error (.query (.tooLarge 20 4)) ∧
        chainedFlags.FirstPast (Formula.checkedSize .complement) 20 4 := by
  have hwell : chainedFlags.WellFormed := by decide
  have hiff := expand_eq_tooLarge_iff ⟨.empty, .complement, 20⟩ chainedFlags hwell
  exact ⟨hwell, rfl, ((hiff.1 20 4).mp rfl).2⟩

/-- Where leaves are flipped, an exclusive disjunction is refused that would keep to the limit. -/
theorem expand_refuses_within_limit :
    fanXorStock.WellFormed ∧
      (fanXorStock.expand ⟨.empty, .flipLeaves, 7⟩).outcome.1 = .error (.query (.tooLarge 7 2)) ∧
        (∃ expanded, (fanXorStock.expand ⟨.empty, .flipLeaves, 9⟩).outcome.1 = .ok expanded ∧
          expanded.length = 7) ∧
          ∀ position, ¬fanXorStock.FirstPast (Formula.emittedSize .flipLeaves) 7 position := by
  refine ⟨by decide, rfl, ⟨_, rfl, rfl⟩, ?_⟩
  rintro position ⟨⟨left, right, hexclusive, hpast⟩, -⟩
  have hlisting : fanXorStock = (Formula.join .xor (.leaf (.flag (.onColumn "fan")))
      (.leaf (.flag (.onColumn "stock")))).program := rfl
  rw [hlisting, exclusiveAt_join] at hexclusive
  rcases hexclusive with hexclusive | ⟨offset, -, hexclusive⟩ | ⟨-, -, rfl, rfl⟩
  · exact not_exclusiveAt_leaf _ hexclusive
  · exact not_exclusiveAt_leaf _ hexclusive
  · exact absurd hpast (by decide)

end Program

end FacetFilter
