import FacetFilter.Proofs.Program.Grammar

/-!
# Reading expressions

Keeping operators back until their operands are complete reads exactly the
expressions of the grammar.  In one direction a derivation tells how far the
reader gets on a phrase; in the other, what the reader has kept back tells which
phrases are under way.
-/

namespace FacetFilter

namespace Arrangement

/-! ## Operators that are kept back -/

/-- The entries of operators, the latest first. -/
def held (operators : List Operator) : List Pending := operators.map .operator

/-- What the output becomes when the operators are put out, the first of them first. -/
def flush (operators : List Operator) (output : Program) : Program :=
  (operators.map Instruction.operator).reverse ++ output

@[simp]
theorem flush_nil (output : Program) : flush [] output = output := rfl

@[simp]
theorem flush_cons (top : Operator) (operators : List Operator) (output : Program) :
    flush (top :: operators) output = flush operators (.operator top :: output) := by
  simp [flush]

theorem flush_append (first second : List Operator) (output : Program) :
    flush (first ++ second) output = flush second (flush first output) := by
  simp [flush]

/-- The entry on top stays where it is when the junction follows. -/
def Stops (junction : Junction) : List Pending → Prop
  | .operator top :: _ => top.level < (Operator.join junction).level
  | _ => True

theorem Stops.mono {junction tighter : Junction} {pending : List Pending}
    (hstops : Stops junction pending)
    (hlevel : (Operator.join junction).level ≤ (Operator.join tighter).level) :
    Stops tighter pending := by
  rcases pending with _ | ⟨_ | _, pending⟩
  · trivial
  · exact Nat.lt_of_lt_of_le hstops hlevel
  · trivial

theorem release_of_stops {junction : Junction} {pending : List Pending}
    (hstops : Stops junction pending) (output : Program) :
    release junction output pending = (output, pending) := by
  rcases pending with _ | ⟨_ | _, pending⟩
  · rfl
  · rw [release, if_neg (Nat.not_le.mpr hstops)]
  · rfl

theorem release_held {junction : Junction} {pending : List Pending} {operators : List Operator}
    (hlevels : ∀ operator ∈ operators, (Operator.join junction).level ≤ operator.level)
    (hstops : Stops junction pending) (output : Program) :
    release junction output (held operators ++ pending) = (flush operators output, pending) := by
  induction operators generalizing output with
  | nil => exact release_of_stops hstops output
  | cons top operators ih =>
      obtain ⟨htop, hrest⟩ := List.forall_mem_cons.mp hlevels
      rw [flush_cons, ← ih hrest]
      exact if_pos htop

theorem closeGroup_held (position opened : Nat) (pending : List Pending)
    (operators : List Operator) (output : Program) :
    closeGroup position output (held operators ++ .opening opened :: pending) =
      .ok (flush operators output, pending) := by
  induction operators generalizing output with
  | nil => rfl
  | cons top operators ih => exact (ih _).trans (by rw [flush_cons])

theorem drain_held (operators : List Operator) (output : Program) :
    drain output (held operators) = .ok (flush operators output).reverse := by
  induction operators generalizing output with
  | nil => rfl
  | cons top operators ih => exact (ih _).trans (by rw [flush_cons])

theorem acceptAll_append (state : Arrangement) (position : Nat) (first second : List Symbol) :
    state.acceptAll position (first ++ second) =
      state.acceptAll position first >>= fun state =>
        state.acceptAll (position + first.length) second := by
  induction first generalizing state position with
  | nil => rfl
  | cons symbol first ih =>
      rw [List.cons_append, acceptAll, acceptAll]
      cases state.accept position symbol with
      | error fault => rfl
      | ok state =>
          simp only [ih, List.length_cons]
          rw [Nat.add_right_comm]
          rfl

theorem exists_of_acceptAll_append {state final : Arrangement} {position : Nat}
    {first second : List Symbol}
    (haccept : state.acceptAll position (first ++ second) = .ok final) :
    ∃ middle, state.acceptAll position first = .ok middle ∧
      middle.acceptAll (position + first.length) second = .ok final := by
  rw [acceptAll_append] at haccept
  cases hfirst : state.acceptAll position first with
  | error fault =>
      rw [hfirst] at haccept
      cases haccept
  | ok middle =>
      rw [hfirst] at haccept
      exact ⟨middle, rfl, haccept⟩

theorem exists_of_acceptAll_cons {state final : Arrangement} {position : Nat} {symbol : Symbol}
    {more : List Symbol} (haccept : state.acceptAll position (symbol :: more) = .ok final) :
    ∃ next, state.accept position symbol = .ok next ∧
      next.acceptAll (position + 1) more = .ok final := by
  rw [acceptAll] at haccept
  cases hfirst : state.accept position symbol with
  | error fault =>
      rw [hfirst] at haccept
      cases haccept
  | ok next =>
      rw [hfirst] at haccept
      exact ⟨next, rfl, haccept⟩

/-- What holds of a state and the symbols behind which it stands, and is kept by each symbol, holds
behind all of them. -/
theorem acceptAll_induction {motive : Nat → List Symbol → Arrangement → Prop}
    (hstep : ∀ {position : Nat} {symbols : List Symbol} {state next : Arrangement}
      {symbol : Symbol}, motive position symbols state →
        state.accept position symbol = .ok next → motive (position + 1) (symbols ++ [symbol]) next)
    {position : Nat} {symbols more : List Symbol} {state final : Arrangement}
    (hmotive : motive position symbols state)
    (haccept : state.acceptAll position more = .ok final) :
    motive (position + more.length) (symbols ++ more) final := by
  induction more generalizing symbols state position with
  | nil =>
      cases haccept
      rwa [List.append_nil]
  | cons symbol more ih =>
      obtain ⟨next, hone, hmore⟩ := exists_of_acceptAll_cons haccept
      have hrest := ih (hstep hmotive hone) hmore
      rwa [List.append_assoc, Nat.add_right_comm] at hrest

/-! ## From a derivation to a reading -/

/-- Nothing on top is put out while the phrase is read. -/
def Leaves : Phrase → List Pending → Prop
  | .operand, _ => True
  | .chain junction, pending => Stops junction pending

theorem Leaves.below {junction : Junction} {pending : List Pending}
    (hstops : Stops junction pending) : Leaves (.below junction) pending := by
  cases junction with
  | and => trivial
  | xor => exact hstops.mono (by decide)
  | or => exact hstops.mono (by decide)

/-- Behind a phrase its formula is put out but for operators that bind at least as tightly
as the phrase does, and what was kept back before is untouched. -/
def Reads (phrase : Phrase) (symbols : List Symbol) (formula : Formula) : Prop :=
  ∀ (position : Nat) (output : Program) (pending : List Pending), Leaves phrase pending →
    ∃ (written : Program) (operators : List Operator),
      acceptAll ⟨output, pending, true⟩ position symbols =
          .ok ⟨written, held operators ++ pending, false⟩ ∧
        flush operators written = formula.program.reverse ++ output ∧
        ∀ operator ∈ operators, phrase.level ≤ operator.level

theorem reads_leaf (condition : Condition) :
    Reads .operand [.leaf condition] (.leaf condition) :=
  fun _ output _ _ => ⟨.leaf condition :: output, [], rfl, rfl, by simp⟩

theorem Reads.negation {symbols : List Symbol} {formula : Formula}
    (hreads : Reads .operand symbols formula) :
    Reads .operand (.operator .not :: symbols) (.negation formula) := by
  intro position output pending _
  obtain ⟨written, operators, haccept, hflush, hlevels⟩ :=
    hreads (position + 1) output (.operator .not :: pending) trivial
  refine ⟨written, operators ++ [.not], ?_, ?_, ?_⟩
  · rw [acceptAll]
    simpa [accept, held] using haccept
  · rw [flush_append, hflush]
    simp
  · intro operator hoperator
    rcases List.mem_append.mp hoperator with hoperator | hoperator
    · exact hlevels operator hoperator
    · rw [List.mem_singleton.mp hoperator]
      exact Nat.le_refl _

theorem Reads.group {symbols : List Symbol} {formula : Formula}
    (hreads : Reads .expression symbols formula) :
    Reads .operand (.opening :: (symbols ++ [.closing])) formula := by
  intro position output pending _
  obtain ⟨written, operators, haccept, hflush, -⟩ :=
    hreads (position + 1) output (.opening position :: pending) trivial
  refine ⟨flush operators written, [], ?_, hflush, by simp⟩
  have hopen : acceptAll ⟨output, pending, true⟩ position (.opening :: (symbols ++ [.closing])) =
      acceptAll ⟨output, .opening position :: pending, true⟩ (position + 1)
        (symbols ++ [.closing]) := rfl
  rw [hopen, acceptAll_append, haccept]
  have hclose := closeGroup_held (position + 1 + symbols.length) position pending operators written
  simp only [bind, Except.bind, acceptAll, accept, hclose]
  rfl

theorem Reads.single {junction : Junction} {symbols : List Symbol} {formula : Formula}
    (hreads : Reads (.below junction) symbols formula) :
    Reads (.chain junction) symbols formula := by
  intro position output pending hstops
  obtain ⟨written, operators, haccept, hflush, hlevels⟩ :=
    hreads position output pending (Leaves.below hstops)
  refine ⟨written, operators, haccept, hflush, fun operator hoperator => ?_⟩
  have hlevel := hlevels operator hoperator
  rw [Phrase.level_below] at hlevel
  exact Nat.le_of_succ_le hlevel

/-- A junction puts out all that the chain before it has kept back. -/
theorem Reads.extend {junction : Junction} {symbols more : List Symbol} {formula last : Formula}
    (hreads : Reads (.chain junction) symbols formula) (hlast : Reads (.below junction) more last) :
    Reads (.chain junction) (symbols ++ .operator (.join junction) :: more)
      (.join junction formula last) := by
  intro position output pending hstops
  obtain ⟨written, operators, haccept, hflush, hlevels⟩ := hreads position output pending hstops
  have hleaves : Leaves (.below junction) (.operator (.join junction) :: pending) := by
    cases junction <;> simp [Phrase.below, Leaves, Stops, Operator.level]
  obtain ⟨written', operators', haccept', hflush', hlevels'⟩ :=
    hlast (position + symbols.length + 1) (flush operators written) _ hleaves
  refine ⟨written', operators' ++ [.join junction], ?_, ?_, ?_⟩
  · rw [acceptAll_append, haccept]
    have hrelease := release_held hlevels hstops written
    simp only [bind, Except.bind, acceptAll, accept, hrelease]
    simpa [held] using haccept'
  · rw [flush_append, hflush', hflush]
    simp
  · intro operator hoperator
    rcases List.mem_append.mp hoperator with hoperator | hoperator
    · have hlevel := hlevels' operator hoperator
      rw [Phrase.level_below] at hlevel
      exact Nat.le_of_succ_le hlevel
    · rw [List.mem_singleton.mp hoperator]
      exact Nat.le_refl _

theorem reads_of_derives {phrase : Phrase} {symbols : List Symbol} {formula : Formula}
    (hderives : Derives phrase symbols formula) : Reads phrase symbols formula := by
  induction hderives using Derives.leftInduction with
  | leaf condition => exact reads_leaf condition
  | negation _ ih => exact ih.negation
  | group _ ih => exact ih.group
  | single _ ih => exact ih.single
  | extend _ _ ihChain ihLast => exact ihChain.extend ihLast

theorem ofSymbols_of_derives {symbols : List Symbol} {formula : Formula}
    (hderives : Derives .expression symbols formula) :
    Program.ofSymbols symbols = .ok formula.program := by
  obtain ⟨written, operators, haccept, hflush, -⟩ :=
    reads_of_derives hderives 0 [] [] trivial
  have hnonempty : symbols.isEmpty = false := by
    rw [List.isEmpty_eq_false_iff]
    exact hderives.ne_nil
  have hfinish : finish ⟨written, held operators ++ [], false⟩ symbols.length =
      .ok formula.program := by
    have hdrain := drain_held operators written
    rw [hflush] at hdrain
    simpa [finish] using hdrain
  rw [Program.ofSymbols, hnonempty]
  simp only [start, haccept]
  exact hfinish

/-! ## From a reading to a derivation -/

/-- What was read where an operand is due.  The symbols are those behind which the reader
stands, and the phrase is the one that the latest pending entry waits for. -/
inductive Awaits : Phrase → List Symbol → Program → List Pending → Prop where
  | start : Awaits .expression [] [] []
  | negation {phrase : Phrase} {symbols : List Symbol} {output : Program} {pending : List Pending}
      (hbefore : Awaits phrase symbols output pending) :
      Awaits .operand (symbols ++ [.operator .not]) output (.operator .not :: pending)
  | group {phrase : Phrase} {symbols : List Symbol} {output : Program} {pending : List Pending}
      (position : Nat) (hbefore : Awaits phrase symbols output pending) :
      Awaits .expression (symbols ++ [.opening]) output (.opening position :: pending)
  | chain {phrase : Phrase} {symbols text : List Symbol} {output : Program}
      {pending : List Pending} {junction : Junction} {left : Formula}
      (hbefore : Awaits phrase symbols output pending)
      (hleft : Derives (.chain junction) text left) (hstops : Stops junction pending) :
      Awaits (.below junction) (symbols ++ text ++ [.operator (.join junction)])
        (left.program.reverse ++ output) (.operator (.join junction) :: pending)

/-- What was read where a phrase is complete that the latest pending entry can do with. -/
def Completes (phrase : Phrase) (symbols : List Symbol) (output : Program)
    (pending : List Pending) : Prop :=
  ∃ (awaited : Phrase) (before text : List Symbol) (formula : Formula) (earlier : Program),
    Awaits awaited before earlier pending ∧ Derives phrase text formula ∧
      awaited.level ≤ phrase.level ∧ symbols = before ++ text ∧
        output = formula.program.reverse ++ earlier

/-- The kind of phrase that an operator makes. -/
def phraseOf : Operator → Phrase
  | .not => .operand
  | .join junction => .chain junction

variable {phrase : Phrase} {symbols : List Symbol} {output : Program} {pending : List Pending}

/-- Where a junction releases nothing, its chain is tight enough for the entry below it. -/
theorem Awaits.level_le {junction : Junction} (hawaits : Awaits phrase symbols output pending)
    (hstops : Stops junction pending) : phrase.level ≤ (Phrase.chain junction).level := by
  cases hawaits with
  | start => exact Phrase.level_expression_le _
  | negation hbefore => cases junction <;> simp [Stops, Operator.level] at hstops
  | group position hbefore => exact Phrase.level_expression_le _
  | chain hbefore hleft hbelow =>
      rw [Phrase.level_below]
      exact hstops

theorem Completes.weaken {looser : Phrase} (hcompletes : Completes phrase symbols output pending)
    (hlevel : looser.level ≤ phrase.level)
    (hawaited : ∀ awaited before earlier, Awaits awaited before earlier pending →
      awaited.level ≤ looser.level) : Completes looser symbols output pending := by
  obtain ⟨awaited, before, text, formula, earlier, hawaits, hderives, -, hsymbols, houtput⟩ :=
    hcompletes
  exact ⟨awaited, before, text, formula, earlier, hawaits, hderives.loosen hlevel,
    hawaited _ _ _ hawaits, hsymbols, houtput⟩

/-- Putting out the operator on top completes the phrase that it makes. -/
theorem Completes.put_out {top : Operator}
    (hcompletes : Completes phrase symbols output (.operator top :: pending)) :
    Completes (phraseOf top) symbols (.operator top :: output) pending := by
  obtain ⟨awaited, before, text, formula, earlier, hawaits, hderives, hlevel, rfl, rfl⟩ :=
    hcompletes
  have hoperand := hderives.loosen hlevel
  cases hawaits with
  | @negation phrase before earlier pending hbefore =>
      exact ⟨phrase, before, .operator .not :: text, .negation formula, earlier, hbefore,
        .negation hoperand, Phrase.level_le_operand _, by simp, by simp⟩
  | @chain phrase before left earlier pending junction leftFormula hbefore hleft hstops =>
      exact ⟨phrase, before, left ++ .operator (.join junction) :: text,
        .join junction leftFormula formula, earlier, hbefore, hleft.extend hoperand,
        hbefore.level_le hstops, by simp, by simp⟩

theorem level_phraseOf (operator : Operator) : (phraseOf operator).level = operator.level := by
  cases operator <;> rfl

theorem Completes.release (junction : Junction)
    (hcompletes : Completes phrase symbols output pending)
    (hlevel : (Phrase.chain junction).level ≤ phrase.level) :
    Completes (.chain junction) symbols (release junction output pending).1
        (release junction output pending).2 ∧
      Stops junction (release junction output pending).2 := by
  have hstop : ∀ {phrase output pending}, Completes phrase symbols output pending →
      (Phrase.chain junction).level ≤ phrase.level → Stops junction pending →
      Completes (.chain junction) symbols (Arrangement.release junction output pending).1
          (Arrangement.release junction output pending).2 ∧
        Stops junction (Arrangement.release junction output pending).2 := by
    intro phrase output pending hcompletes hlevel hstops
    rw [release_of_stops hstops]
    exact ⟨hcompletes.weaken hlevel fun _ _ _ hawaits => hawaits.level_le hstops, hstops⟩
  induction pending generalizing phrase output with
  | nil => exact hstop hcompletes hlevel trivial
  | cons entry pending ih =>
      rcases entry with top | position
      · by_cases hrelease : (Operator.join junction).level ≤ top.level
        · rw [Arrangement.release, if_pos hrelease]
          exact ih hcompletes.put_out (by rw [level_phraseOf]; exact hrelease)
        · exact hstop hcompletes hlevel (Nat.lt_of_not_le hrelease)
      · exact hstop hcompletes hlevel trivial

/-- A closed group is an operand. -/
theorem Completes.closeGroup {position : Nat} {written : Program} {rest : List Pending}
    (hcompletes : Completes phrase symbols output pending)
    (hclose : closeGroup position output pending = .ok (written, rest)) :
    Completes .operand (symbols ++ [.closing]) written rest := by
  induction pending generalizing phrase output with
  | nil => cases hclose
  | cons entry pending ih =>
      rcases entry with top | opened
      · exact ih hcompletes.put_out hclose
      · cases hclose
        obtain ⟨awaited, before, text, formula, earlier, hawaits, hderives, hlevel, rfl, rfl⟩ :=
          hcompletes
        cases hawaits with
        | @group phrase before _ _ _ hbefore =>
            exact ⟨phrase, before, .opening :: (text ++ [.closing]), formula, earlier, hbefore,
              .group (hderives.loosen hlevel), Phrase.level_le_operand _, by simp, rfl⟩

theorem Completes.drain {program : Program}
    (hcompletes : Completes phrase symbols output pending)
    (hdrain : drain output pending = .ok program) :
    ∃ formula, Derives .expression symbols formula ∧ formula.program = program := by
  induction pending generalizing phrase output with
  | nil =>
      cases hdrain
      obtain ⟨awaited, before, text, formula, earlier, hawaits, hderives, hlevel, rfl, rfl⟩ :=
        hcompletes
      cases hawaits with
      | start => exact ⟨formula, hderives.loosen hlevel, by simp⟩
  | cons entry pending ih =>
      rcases entry with top | position
      · exact ih hcompletes.put_out hdrain
      · cases hdrain

/-- How a state comes from the symbols read so far. -/
def Follows (symbols : List Symbol) (state : Arrangement) : Prop :=
  if state.expectsOperand then ∃ phrase, Awaits phrase symbols state.output state.pending
  else Completes .operand symbols state.output state.pending

theorem follows_start : Follows [] start := ⟨_, .start⟩

/-- A junction behind a chain that it does not release waits for one more phrase. -/
theorem Completes.awaits {junction : Junction}
    (hcompletes : Completes (.chain junction) symbols output pending)
    (hstops : Stops junction pending) :
    Awaits (.below junction) (symbols ++ [.operator (.join junction)]) output
      (.operator (.join junction) :: pending) := by
  obtain ⟨awaited, before, text, formula, earlier, hbefore, hderives, -, rfl, rfl⟩ := hcompletes
  exact hbefore.chain hderives hstops

theorem Awaits.accept {position : Nat} {symbol : Symbol} {next : Arrangement}
    (hawaits : Awaits phrase symbols output pending)
    (haccept : accept ⟨output, pending, true⟩ position symbol = .ok next) :
    Follows (symbols ++ [symbol]) next := by
  rcases symbol with condition | (_ | junction) | _ | _
  · cases haccept
    exact ⟨phrase, symbols, [.leaf condition], .leaf condition, output, hawaits,
      .leaf condition, Phrase.level_le_operand _, rfl, rfl⟩
  · cases haccept
    exact ⟨_, hawaits.negation⟩
  · cases haccept
  · cases haccept
    exact ⟨_, hawaits.group position⟩
  · cases haccept

theorem Completes.accept {position : Nat} {symbol : Symbol} {next : Arrangement}
    (hcompletes : Completes .operand symbols output pending)
    (haccept : accept ⟨output, pending, false⟩ position symbol = .ok next) :
    Follows (symbols ++ [symbol]) next := by
  rcases symbol with condition | (_ | junction) | _ | _
  · cases haccept
  · cases haccept
  · cases haccept
    obtain ⟨hreleased, hstops⟩ := hcompletes.release junction (Phrase.level_le_operand _)
    exact ⟨.below junction, hreleased.awaits hstops⟩
  · cases haccept
  · simp only [Arrangement.accept] at haccept
    cases hclose : Arrangement.closeGroup position output pending with
    | error fault =>
        rw [hclose] at haccept
        cases haccept
    | ok released =>
        rw [hclose] at haccept
        cases haccept
        exact hcompletes.closeGroup hclose

/-- One symbol keeps the state behind what was read. -/
theorem Follows.accept {state next : Arrangement} {position : Nat} {symbol : Symbol}
    (hfollows : Follows symbols state) (haccept : state.accept position symbol = .ok next) :
    Follows (symbols ++ [symbol]) next := by
  obtain ⟨output, pending, expectsOperand⟩ := state
  cases expectsOperand with
  | true =>
      obtain ⟨phrase, hawaits⟩ := hfollows
      exact hawaits.accept haccept
  | false =>
      have hcompletes : Completes .operand symbols output pending := hfollows
      exact hcompletes.accept haccept

theorem Follows.acceptAll {state final : Arrangement} {position : Nat} {more : List Symbol}
    (hfollows : Follows symbols state) (haccept : state.acceptAll position more = .ok final) :
    Follows (symbols ++ more) final :=
  acceptAll_induction (motive := fun _ => Follows) Follows.accept hfollows haccept

theorem Follows.finish {state : Arrangement} {count : Nat} {program : Program}
    (hfollows : Follows symbols state) (hnonempty : symbols ≠ [])
    (hfinish : state.finish count = .ok program) :
    ∃ formula, Derives .expression symbols formula ∧ formula.program = program := by
  obtain ⟨output, pending, expectsOperand⟩ := state
  cases expectsOperand with
  | true =>
      obtain ⟨phrase, hawaits⟩ := hfollows
      cases hawaits with
      | start => exact absurd rfl hnonempty
      | negation | group | chain => cases hfinish
  | false =>
      have hcompletes : Completes .operand symbols output pending := hfollows
      exact hcompletes.drain hfinish

theorem derives_of_ofSymbols {symbols : List Symbol} {program : Program}
    (hprogram : Program.ofSymbols symbols = .ok program) :
    ∃ formula, Derives .expression symbols formula ∧ formula.program = program := by
  by_cases hempty : symbols = []
  · subst hempty
    cases hprogram
  · rw [Program.ofSymbols, if_neg (by simpa using hempty)] at hprogram
    cases haccept : start.acceptAll 0 symbols with
    | error fault =>
        rw [haccept] at hprogram
        cases hprogram
    | ok state =>
        rw [haccept] at hprogram
        exact (follows_start.acceptAll haccept).finish hempty hprogram

/-- No symbols that can be read hold an empty pair of parentheses. -/
theorem not_infix_of_acceptAll {state next : Arrangement} {position : Nat} {symbols : List Symbol}
    (haccept : state.acceptAll position symbols = .ok next) :
    ¬[.opening, .closing] <:+: symbols := by
  rintro ⟨before, after, rfl⟩
  rw [List.append_assoc] at haccept
  obtain ⟨middle, -, hpair⟩ := exists_of_acceptAll_append haccept
  obtain ⟨output, pending, expectsOperand⟩ := middle
  cases expectsOperand <;> cases hpair

end Arrangement

namespace Program

theorem not_infix_of_ofSymbols {symbols : List Symbol} {program : Program}
    (hprogram : ofSymbols symbols = .ok program) : ¬[.opening, .closing] <:+: symbols := by
  rw [ofSymbols] at hprogram
  split at hprogram
  · cases hprogram
  · cases haccept : Arrangement.start.acceptAll 0 symbols with
    | error fault =>
        rw [haccept] at hprogram
        cases hprogram
    | ok state => exact Arrangement.not_infix_of_acceptAll haccept

/-- Reading an expression succeeds on the expressions of the grammar and on nothing else.
It gives the postfix listing of the formula, in which the conditions keep the order of the
expression and every condition and operator occurs as often as there. -/
theorem ofSymbols_succeeds_iff_derives (symbols : List Symbol) :
    ((∃ program, ofSymbols symbols = .ok program) ↔
        ∃ formula, Derives .expression symbols formula) ∧
      ∀ formula, Derives .expression symbols formula →
        ofSymbols symbols = .ok formula.program ∧
          formula.program.filterMap Instruction.condition? =
            symbols.filterMap Symbol.condition? ∧
          formula.program.Perm (symbols.filterMap Symbol.instruction?) := by
  refine ⟨⟨?_, ?_⟩, ?_⟩
  · rintro ⟨program, hprogram⟩
    obtain ⟨formula, hderives, -⟩ := Arrangement.derives_of_ofSymbols hprogram
    exact ⟨formula, hderives⟩
  · rintro ⟨formula, hderives⟩
    exact ⟨formula.program, Arrangement.ofSymbols_of_derives hderives⟩
  · intro formula hderives
    exact ⟨Arrangement.ofSymbols_of_derives hderives, hderives.conditions_eq,
      hderives.perm_instructions⟩

end Program

end FacetFilter
