import FacetFilter.Proofs.Program.Parsing

/-!
# What symbols an expression can begin with

Reading never goes on in vain: whatever has been read can be completed, by an operand
where one is due and by closing the parentheses that are left open.  A fault within an
expression therefore stands at the first symbol that no expression has there, and a
fault at its end says what is still missing.
-/

namespace FacetFilter

/-! ## Parentheses -/

/-- The parentheses of the symbols come in pairs. -/
inductive Paired : List Symbol → Prop where
  | nil : Paired []
  | plain {symbols : List Symbol} {symbol : Symbol} (hsymbols : Paired symbols)
      (hopening : symbol ≠ .opening) (hclosing : symbol ≠ .closing) : Paired (symbols ++ [symbol])
  | group {symbols inside : List Symbol} (hsymbols : Paired symbols) (hinside : Paired inside) :
      Paired (symbols ++ .opening :: (inside ++ [.closing]))

/-- The places of the parentheses that are left open, the innermost first. -/
inductive LeftOpen : List Symbol → List Nat → Prop where
  | none {symbols : List Symbol} (hsymbols : Paired symbols) : LeftOpen symbols []
  | more {before inside : List Symbol} {places : List Nat} (hbefore : LeftOpen before places)
      (hinside : Paired inside) :
      LeftOpen (before ++ .opening :: inside) (before.length :: places)

/-- The parenthesis at `place` is left open, and behind it none is. -/
def InnermostOpen (symbols : List Symbol) (place : Nat) : Prop :=
  ∃ before inside : List Symbol, symbols = before ++ .opening :: inside ∧
    before.length = place ∧ Paired inside

namespace LeftOpen

variable {symbols : List Symbol} {place : Nat} {places : List Nat}

theorem innermost (hopen : LeftOpen symbols (place :: places)) : InnermostOpen symbols place := by
  cases hopen with
  | @more before inside _ hbefore hinside => exact ⟨before, inside, rfl, rfl, hinside⟩

theorem plain {symbol : Symbol} (hopen : LeftOpen symbols places) (hopening : symbol ≠ .opening)
    (hclosing : symbol ≠ .closing) : LeftOpen (symbols ++ [symbol]) places := by
  cases hopen with
  | none hsymbols => exact .none (hsymbols.plain hopening hclosing)
  | @more before inside places hbefore hinside =>
      have hmore := hbefore.more (hinside.plain hopening hclosing)
      simpa using hmore

theorem opening (hopen : LeftOpen symbols places) :
    LeftOpen (symbols ++ [.opening]) (symbols.length :: places) := hopen.more .nil

/-- A closing parenthesis makes a pair with the innermost one that is left open. -/
theorem closing (hopen : LeftOpen symbols (place :: places)) :
    LeftOpen (symbols ++ [.closing]) places := by
  cases hopen with
  | @more before inside _ hbefore hinside =>
      cases hbefore with
      | none hsymbols => simpa using LeftOpen.none (hsymbols.group hinside)
      | @more before outside places hbefore houtside =>
          have hmore := hbefore.more (houtside.group hinside)
          simpa using hmore

end LeftOpen

/-! ## Symbols that can be completed -/

/-- The symbols begin an expression that can be read. -/
def Completable (symbols : List Symbol) : Prop :=
  ∃ more program, Program.ofSymbols (symbols ++ more) = .ok program

/-- The symbols before `place` begin an expression, and with the one at `place` none does. -/
structure StopsAt (symbols : List Symbol) (place : Nat) : Prop where
  before : Completable (symbols.take place)
  stuck : ¬Completable (symbols.take (place + 1))

namespace Arrangement

/-- Parentheses that are closed one by one leave operators alone. -/
theorem exists_acceptAll_closing (pending : List Pending) (output : Program) (position : Nat) :
    ∃ (count : Nat) (written : Program) (operators : List Operator),
      acceptAll ⟨output, pending, false⟩ position (List.replicate count .closing) =
        .ok ⟨written, held operators, false⟩ := by
  induction pending generalizing output position with
  | nil => exact ⟨0, output, [], rfl⟩
  | cons entry pending ih =>
      cases entry with
      | operator top =>
          obtain ⟨count, written, operators, haccept⟩ := ih (.operator top :: output) position
          cases count with
          | zero =>
              cases haccept
              exact ⟨0, output, top :: operators, rfl⟩
          | succ count => exact ⟨count + 1, written, operators, haccept⟩
      | opening place =>
          obtain ⟨count, written, operators, haccept⟩ := ih output (position + 1)
          exact ⟨count + 1, written, operators, haccept⟩

/-- Behind an operand every state can be brought to its end. -/
theorem exists_finish_of_operand (output : Program) (pending : List Pending) (position : Nat) :
    ∃ more, ∀ length, ∃ program,
      (acceptAll ⟨output, pending, false⟩ position more >>= fun state => state.finish length) =
        .ok program := by
  obtain ⟨count, written, operators, haccept⟩ := exists_acceptAll_closing pending output position
  refine ⟨List.replicate count .closing, fun length => ⟨(flush operators written).reverse, ?_⟩⟩
  rw [haccept]
  exact drain_held operators written

/-- Every state can be brought to its end. -/
theorem exists_finish (state : Arrangement) (position : Nat) :
    ∃ more, ∀ length, ∃ program,
      (state.acceptAll position more >>= fun state => state.finish length) = .ok program := by
  obtain ⟨output, pending, expectsOperand⟩ := state
  cases expectsOperand with
  | false => exact exists_finish_of_operand output pending position
  | true =>
      obtain ⟨more, hmore⟩ := exists_finish_of_operand
        (.leaf (.flag (.onColumn "")) :: output) pending (position + 1)
      exact ⟨.leaf (.flag (.onColumn "")) :: more, hmore⟩

theorem completable_of_acceptAll {symbols : List Symbol} {state : Arrangement}
    (haccept : start.acceptAll 0 symbols = .ok state) : Completable symbols := by
  by_cases hempty : symbols = []
  · subst hempty
    exact ⟨[.leaf (.flag (.onColumn ""))], _, rfl⟩
  · obtain ⟨more, hmore⟩ := state.exists_finish (0 + symbols.length)
    obtain ⟨program, hprogram⟩ := hmore (symbols ++ more).length
    refine ⟨more, program, ?_⟩
    rw [Program.ofSymbols, if_neg (by simp [hempty]), acceptAll_append, haccept]
    exact hprogram

theorem not_completable_of_acceptAll {symbols : List Symbol} {fault : StructureFault}
    (hrefused : start.acceptAll 0 symbols = .error fault) : ¬Completable symbols := by
  rintro ⟨more, program, hprogram⟩
  rw [Program.ofSymbols] at hprogram
  split at hprogram
  · cases hprogram
  · rw [acceptAll_append, hrefused] at hprogram
    cases hprogram

/-- Reading stops at a symbol before which it did not. -/
theorem exists_refused {state : Arrangement} {position : Nat} {symbols : List Symbol}
    {fault : StructureFault} (hrefused : state.acceptAll position symbols = .error fault) :
    ∃ before symbol after next, symbols = before ++ symbol :: after ∧
      state.acceptAll position before = .ok next ∧
        next.accept (position + before.length) symbol = .error fault := by
  induction symbols generalizing state position with
  | nil => cases hrefused
  | cons symbol symbols ih =>
      rw [acceptAll] at hrefused
      cases hstep : state.accept position symbol with
      | error other =>
          rw [hstep] at hrefused
          cases hrefused
          exact ⟨[], symbol, symbols, state, rfl, rfl, hstep⟩
      | ok next =>
          rw [hstep] at hrefused
          obtain ⟨before, refused, after, final, rfl, haccept, hfault⟩ := ih hrefused
          refine ⟨symbol :: before, refused, after, final, rfl, ?_, ?_⟩
          · rw [acceptAll, hstep]
            exact haccept
          · rwa [List.length_cons, Nat.add_comm before.length, ← Nat.add_assoc]

/-! ## What is kept back and what has been read -/

/-- Whether an operand is due behind the last symbol, if there is one. -/
def dueAfter : Option Symbol → Bool
  | none | some (.operator _) | some .opening => true
  | some (.leaf _) | some .closing => false

/-- The entry that the last symbol has left, where an operand is due. -/
def entryAfter (symbols : List Symbol) : Option Pending :=
  match symbols.getLast? with
  | some (.operator operator) => some (.operator operator)
  | some .opening => some (.opening (symbols.length - 1))
  | _ => none

def openings (pending : List Pending) : List Nat :=
  pending.filterMap fun entry =>
    match entry with
    | .operator _ => none
    | .opening place => some place

/-- The groups kept back are the parentheses left open, and where an operand is due the entry on
top comes from the last symbol. -/
structure Tracks (symbols : List Symbol) (state : Arrangement) : Prop where
  leftOpen : LeftOpen symbols (openings state.pending)
  due : state.expectsOperand = dueAfter symbols.getLast?
  latest : state.expectsOperand = true → state.pending.head? = entryAfter symbols

theorem tracks_start : Tracks [] start where
  leftOpen := .none .nil
  due := rfl
  latest := fun _ => rfl

theorem openings_release (junction : Junction) (output : Program) (pending : List Pending) :
    openings (release junction output pending).2 = openings pending := by
  induction pending generalizing output with
  | nil => rfl
  | cons entry pending ih =>
      cases entry with
      | opening place => rfl
      | operator top =>
          rw [release]
          split
          · exact ih _
          · rfl

theorem openings_closeGroup {position : Nat} {output written : Program}
    {pending rest : List Pending}
    (hclose : closeGroup position output pending = .ok (written, rest)) :
    ∃ place, openings pending = place :: openings rest := by
  induction pending generalizing output with
  | nil => cases hclose
  | cons entry pending ih =>
      cases entry with
      | operator top => exact ih hclose
      | opening place =>
          cases hclose
          exact ⟨place, rfl⟩

theorem eq_of_closeGroup {position : Nat} {output : Program} {pending : List Pending}
    {fault : StructureFault} (hclose : closeGroup position output pending = .error fault) :
    fault = .unmatchedClosing position := by
  induction pending generalizing output with
  | nil =>
      cases hclose
      rfl
  | cons entry pending ih =>
      cases entry with
      | operator top => exact ih hclose
      | opening place => cases hclose

theorem openings_drain {output : Program} {pending : List Pending} {fault : StructureFault}
    (hdrain : drain output pending = .error fault) :
    ∃ place places, fault = .unclosedGroup place ∧ openings pending = place :: places := by
  induction pending generalizing output with
  | nil => cases hdrain
  | cons entry pending ih =>
      cases entry with
      | operator top => exact ih hdrain
      | opening place =>
          cases hdrain
          exact ⟨place, _, rfl, rfl⟩

variable {symbols : List Symbol} {state next : Arrangement} {symbol : Symbol}

/-- What one symbol that is read does to the state, where an operand is due and where none is. -/
theorem accept_eq_ok {position : Nat} (haccept : state.accept position symbol = .ok next) :
    (∃ condition, symbol = .leaf condition ∧ state.expectsOperand = true ∧
        next = ⟨.leaf condition :: state.output, state.pending, false⟩) ∨
      (symbol = .operator .not ∧ state.expectsOperand = true ∧
        next = ⟨state.output, .operator .not :: state.pending, true⟩) ∨
      (symbol = .opening ∧ state.expectsOperand = true ∧
        next = ⟨state.output, .opening position :: state.pending, true⟩) ∨
      (∃ junction, symbol = .operator (.join junction) ∧ state.expectsOperand = false ∧
        next = ⟨(release junction state.output state.pending).1,
          .operator (.join junction) :: (release junction state.output state.pending).2, true⟩) ∨
      symbol = .closing ∧ state.expectsOperand = false ∧
        ∃ written rest, closeGroup position state.output state.pending = .ok (written, rest) ∧
          next = ⟨written, rest, false⟩ := by
  obtain ⟨output, pending, expectsOperand⟩ := state
  cases expectsOperand with
  | true =>
      rcases symbol with condition | (_ | junction) | _ | _ <;> cases haccept
      · exact .inl ⟨condition, rfl, rfl, rfl⟩
      · exact .inr (.inl ⟨rfl, rfl, rfl⟩)
      · exact .inr (.inr (.inl ⟨rfl, rfl, rfl⟩))
  | false =>
      rcases symbol with condition | (_ | junction) | _ | _
      · cases haccept
      · cases haccept
      · cases haccept
        exact .inr (.inr (.inr (.inl ⟨junction, rfl, rfl, rfl⟩)))
      · cases haccept
      · simp only [Arrangement.accept] at haccept
        cases hclose : closeGroup position output pending with
        | error fault =>
            rw [hclose] at haccept
            cases haccept
        | ok released =>
            rw [hclose] at haccept
            cases haccept
            exact .inr (.inr (.inr (.inr ⟨rfl, rfl, released.1, released.2, rfl, rfl⟩)))

theorem openings_accept_of_plain {position : Nat} (hopening : symbol ≠ .opening)
    (hclosing : symbol ≠ .closing) (haccept : state.accept position symbol = .ok next) :
    openings next.pending = openings state.pending := by
  rcases accept_eq_ok haccept with ⟨condition, -, -, rfl⟩ | ⟨-, -, rfl⟩ | ⟨rfl, -⟩ |
    ⟨junction, -, -, rfl⟩ | ⟨rfl, -⟩
  · rfl
  · rfl
  · exact absurd rfl hopening
  · exact openings_release junction state.output state.pending
  · exact absurd rfl hclosing

theorem openings_accept_opening {position : Nat}
    (haccept : state.accept position .opening = .ok next) :
    openings next.pending = position :: openings state.pending := by
  rcases accept_eq_ok haccept with ⟨condition, ⟨⟩, -⟩ | ⟨⟨⟩, -⟩ | ⟨-, -, rfl⟩ | ⟨junction, ⟨⟩, -⟩ |
    ⟨⟨⟩, -⟩
  rfl

theorem exists_openings_accept_closing {position : Nat}
    (haccept : state.accept position .closing = .ok next) :
    ∃ place, openings state.pending = place :: openings next.pending := by
  rcases accept_eq_ok haccept with ⟨condition, ⟨⟩, -⟩ | ⟨⟨⟩, -⟩ | ⟨⟨⟩, -⟩ | ⟨junction, ⟨⟩, -⟩ |
    ⟨-, -, written, rest, hclose, rfl⟩
  exact openings_closeGroup hclose

theorem leftOpen_accept (hopen : LeftOpen symbols (openings state.pending))
    (haccept : state.accept symbols.length symbol = .ok next) :
    LeftOpen (symbols ++ [symbol]) (openings next.pending) := by
  by_cases hopening : symbol = .opening
  · subst hopening
    rw [openings_accept_opening haccept]
    exact hopen.opening
  by_cases hclosing : symbol = .closing
  · subst hclosing
    obtain ⟨place, hplaces⟩ := exists_openings_accept_closing haccept
    rw [hplaces] at hopen
    exact hopen.closing
  rw [openings_accept_of_plain hopening hclosing haccept]
  exact hopen.plain hopening hclosing

theorem Tracks.accept (htracks : Tracks symbols state)
    (haccept : state.accept symbols.length symbol = .ok next) :
    Tracks (symbols ++ [symbol]) next := by
  have hopen := leftOpen_accept htracks.leftOpen haccept
  rcases accept_eq_ok haccept with ⟨condition, rfl, -, rfl⟩ | ⟨rfl, -, rfl⟩ | ⟨rfl, -, rfl⟩ |
    ⟨junction, rfl, -, rfl⟩ | ⟨rfl, -, written, rest, -, rfl⟩
  · exact ⟨hopen, by simp [dueAfter], by simp⟩
  · exact ⟨hopen, by simp [dueAfter], fun _ => by simp [entryAfter]⟩
  · exact ⟨hopen, by simp [dueAfter], fun _ => by simp [entryAfter]⟩
  · exact ⟨hopen, by simp [dueAfter], fun _ => by simp [entryAfter]⟩
  · exact ⟨hopen, by simp [dueAfter], by simp⟩

theorem tracks_of_acceptAll (haccept : start.acceptAll 0 symbols = .ok state) :
    Tracks symbols state := by
  have hboth := acceptAll_induction
    (motive := fun position symbols state => position = symbols.length ∧ Tracks symbols state)
    (fun {position symbols state next symbol} hbefore hstep => by
      obtain ⟨rfl, htracks⟩ := hbefore
      exact ⟨by simp, htracks.accept hstep⟩)
    ⟨rfl, tracks_start⟩ haccept
  simpa using hboth.2

end Arrangement

/-! ## Where a fault stands -/

/-- What the place and the operator of a fault say about the symbols. -/
def StructureFault.StandsIn (symbols : List Symbol) : StructureFault → Prop
  | .unexpected text place =>
      StopsAt symbols place ∧ symbols[place]?.map Symbol.render = some text
  | .unmatchedClosing place => StopsAt symbols place ∧ symbols[place]? = some .closing
  | .emptyGroup place =>
      StopsAt symbols (place + 1) ∧ symbols[place]? = some .opening ∧
        symbols[place + 1]? = some .closing
  | .missingOperand operator place =>
      place < symbols.length ∧ StopsAt symbols place ∧
          (symbols[place]? = some (.operator operator) ∨
            symbols[place]? = some .closing ∧
              (symbols.take place).getLast? = some (.operator operator)) ∨
        place = symbols.length ∧ Completable symbols ∧
          symbols.getLast? = some (.operator operator)
  | .unclosedGroup place => Completable symbols ∧ InnermostOpen symbols place
  | .noSymbols => Completable symbols ∧ symbols = []

namespace Arrangement

variable {symbols : List Symbol} {state : Arrangement} {fault : StructureFault}

/-- Where an operand is due, a closing parenthesis is refused for the symbol before it. -/
theorem Tracks.standsIn_closing {before after : List Symbol} {output : Program}
    {pending : List Pending} (htracks : Tracks before ⟨output, pending, true⟩)
    (hstops : StopsAt (before ++ .closing :: after) before.length) :
    (closingFault before.length pending).StandsIn (before ++ .closing :: after) := by
  have hsymbol : (before ++ .closing :: after)[before.length]? = some .closing := by simp
  have hbefore : (before ++ .closing :: after).take before.length = before := by simp
  have hwithin : before.length < (before ++ .closing :: after).length := by simp
  have hdue := htracks.due
  have hlatest : pending.head? = entryAfter before := htracks.latest rfl
  rw [entryAfter] at hlatest
  rcases List.eq_nil_or_concat before with rfl | ⟨first, last, rfl⟩
  · rw [List.getLast?_nil, List.head?_eq_none_iff] at hlatest
    subst hlatest
    exact ⟨hstops, hsymbol⟩
  · rw [List.concat_eq_append] at *
    rw [List.getLast?_concat] at hdue hlatest
    rcases last with condition | operator | _ | _
    · cases hdue
    · obtain ⟨pending, rfl⟩ := List.head?_eq_some_iff.mp hlatest
      refine .inl ⟨hwithin, hstops, .inr ⟨hsymbol, ?_⟩⟩
      rw [hbefore, List.getLast?_concat]
    · obtain ⟨pending, rfl⟩ := List.head?_eq_some_iff.mp hlatest
      rw [List.length_append, List.length_singleton] at hstops hsymbol ⊢
      exact ⟨hstops, by simp, hsymbol⟩
    · cases hdue

/-- A fault at a symbol is where reading stops. -/
theorem Tracks.standsIn {before after : List Symbol} {symbol : Symbol}
    (htracks : Tracks before state) (hrefused : state.accept before.length symbol = .error fault)
    (hstops : StopsAt (before ++ symbol :: after) before.length) :
    fault.StandsIn (before ++ symbol :: after) := by
  have hsymbol : (before ++ symbol :: after)[before.length]? = some symbol := by simp
  have hbefore : (before ++ symbol :: after).take before.length = before := by simp
  have hwithin : before.length < (before ++ symbol :: after).length := by simp
  obtain ⟨output, pending, expectsOperand⟩ := state
  cases expectsOperand with
  | true =>
      rcases symbol with condition | (_ | junction) | _ | _
      · cases hrefused
      · cases hrefused
      · cases hrefused
        exact .inl ⟨hwithin, hstops, .inl hsymbol⟩
      · cases hrefused
      · cases hrefused
        exact htracks.standsIn_closing hstops
  | false =>
      rcases symbol with condition | (_ | junction) | _ | _
      · cases hrefused
        exact ⟨hstops, by rw [hsymbol]; rfl⟩
      · cases hrefused
        exact ⟨hstops, by rw [hsymbol]; rfl⟩
      · cases hrefused
      · cases hrefused
        exact ⟨hstops, by rw [hsymbol]; rfl⟩
      · simp only [Arrangement.accept] at hrefused
        cases hclose : closeGroup before.length output pending with
        | ok released =>
            rw [hclose] at hrefused
            cases hrefused
        | error other =>
            rw [hclose] at hrefused
            cases hrefused
            rw [eq_of_closeGroup hclose]
            exact ⟨hstops, hsymbol⟩

theorem entryAfter_eq_some_operator {operator : Operator} :
    entryAfter symbols = some (.operator operator) ↔
      symbols.getLast? = some (.operator operator) := by
  rw [entryAfter]
  split <;> simp_all

/-- At the end an operator without its last operand is told before a group without its end. -/
theorem Tracks.finish_eq (htracks : Tracks symbols state)
    (hrefused : state.finish symbols.length = .error fault) :
    (∃ operator, symbols.getLast? = some (.operator operator) ∧
        fault = .missingOperand operator symbols.length) ∨
      (∀ operator, symbols.getLast? ≠ some (.operator operator)) ∧
        ∃ place, InnermostOpen symbols place ∧ fault = .unclosedGroup place := by
  obtain ⟨output, pending, expectsOperand⟩ := state
  have unclosed (hdrain : drain output pending = .error fault) :
      ∃ place, InnermostOpen symbols place ∧ fault = .unclosedGroup place := by
    obtain ⟨place, places, hfault, hplaces⟩ := openings_drain hdrain
    have hopen := htracks.leftOpen
    dsimp only at hopen
    rw [hplaces] at hopen
    exact ⟨place, hopen.innermost, hfault⟩
  cases expectsOperand with
  | true =>
      have hlatest : pending.head? = entryAfter symbols := htracks.latest rfl
      rcases pending with _ | ⟨operator | opened, pending⟩
      · cases hrefused
      · cases hrefused
        exact .inl ⟨operator, entryAfter_eq_some_operator.mp hlatest.symm, rfl⟩
      · refine .inr ⟨fun operator hlast => ?_, unclosed hrefused⟩
        have hentry := hlatest.trans (entryAfter_eq_some_operator.mpr hlast)
        cases hentry
  | false =>
      refine .inr ⟨fun operator hlast => ?_, unclosed hrefused⟩
      have hdue := htracks.due
      rw [hlast] at hdue
      cases hdue

/-- A fault before the end stands at the first symbol that no expression has there. -/
theorem standsIn_of_acceptAll (hrefused : start.acceptAll 0 symbols = .error fault) :
    fault.StandsIn symbols := by
  obtain ⟨before, symbol, after, state, rfl, hbefore, hsymbol⟩ := exists_refused hrefused
  rw [Nat.zero_add] at hsymbol
  have hstuck : start.acceptAll 0 (before ++ [symbol]) = .error fault := by
    rw [acceptAll_append, hbefore]
    change state.acceptAll (0 + before.length) [symbol] = .error fault
    rw [acceptAll, Nat.zero_add, hsymbol]
  have htake : (before ++ symbol :: after).take (before.length + 1) = before ++ [symbol] := by
    rw [List.append_cons]
    exact List.take_left' (by simp)
  refine (tracks_of_acceptAll hbefore).standsIn hsymbol ⟨?_, ?_⟩
  · simpa using completable_of_acceptAll hbefore
  · rw [htake]
    exact not_completable_of_acceptAll hstuck

end Arrangement

open Arrangement in
/-- A refused expression stops at the first symbol that no expression has there, or at its end.
At its end an operand is missing exactly if the last symbol is an operator. -/
theorem Program.refusal_standsIn {symbols : List Symbol} {fault : StructureFault}
    (hrefused : Program.ofSymbols symbols = .error fault) :
    fault.StandsIn symbols ∧
      ∀ operator, fault = .missingOperand operator symbols.length ↔
        Completable symbols ∧ symbols.getLast? = some (.operator operator) := by
  rw [Program.ofSymbols] at hrefused
  split at hrefused
  · next hempty =>
    obtain rfl := List.isEmpty_iff.mp hempty
    cases hrefused
    exact ⟨⟨completable_of_acceptAll rfl, rfl⟩, by simp⟩
  cases haccept : start.acceptAll 0 symbols with
  | error other =>
      rw [haccept] at hrefused
      cases hrefused
      have hstands := standsIn_of_acceptAll haccept
      refine ⟨hstands, fun operator => ⟨?_, ?_⟩⟩
      · rintro rfl
        rcases hstands with ⟨hwithin, -⟩ | ⟨-, hlast⟩
        · exact absurd hwithin (Nat.lt_irrefl _)
        · exact hlast
      · rintro ⟨hcompletable, -⟩
        exact absurd hcompletable (not_completable_of_acceptAll haccept)
  | ok state =>
      rw [haccept] at hrefused
      have hcompletable := completable_of_acceptAll haccept
      rcases (tracks_of_acceptAll haccept).finish_eq hrefused with
        ⟨operator, hlast, rfl⟩ | ⟨hlast, place, hopen, rfl⟩
      · refine ⟨.inr ⟨rfl, hcompletable, hlast⟩, fun other => ⟨?_, ?_⟩⟩
        · rintro ⟨⟩
          exact ⟨hcompletable, hlast⟩
        · rintro ⟨-, hother⟩
          cases hlast.symm.trans hother
          rfl
      · refine ⟨⟨hcompletable, hopen⟩, fun other => ⟨by simp, ?_⟩⟩
        rintro ⟨-, hother⟩
        exact absurd hother (hlast other)

/-- A pair of parentheses around nothing stops the reading at the closing one. -/
theorem Program.refusal_standsIn_emptyGroup :
    let symbols : List Symbol :=
      [.leaf (.flag (.onColumn "open")), .operator (.join .and), .opening, .closing]
    Program.ofSymbols symbols = .error (.emptyGroup 2) ∧ StopsAt symbols 3 := by
  intro symbols
  have hrefused : Program.ofSymbols symbols = .error (.emptyGroup 2) := rfl
  exact ⟨hrefused, (Program.refusal_standsIn hrefused).1.1⟩

end FacetFilter
