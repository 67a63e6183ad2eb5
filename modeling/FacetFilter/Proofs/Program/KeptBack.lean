import Mathlib.Data.List.Chain
import Mathlib.Data.List.Sort
import FacetFilter.Proofs.Program.Completion
import FacetFilter.Proofs.Program.Heights

/-!
# What is kept back while an expression is read

Within one group the operators that wait for their last operand bind ever tighter, with
nothing but negations on top.  The groups that wait for their end are the parentheses
left open.  Every junction kept back has its left operand on the stack, so the heights
of the stack are known at every symbol.
-/

namespace FacetFilter

/-- Operators in the order in which they were met: junctions of which each binds tighter than
those before it, and behind them negations alone. -/
def Climbs (operators : List Operator) : Prop :=
  ∃ (junctions : List Junction) (negations : Nat),
    operators = junctions.map .join ++ List.replicate negations .not ∧
      junctions.Sublist [.or, .xor, .and] ∧
      junctions.Pairwise fun earlier later =>
        (Operator.join earlier).level < (Operator.join later).level

theorem sublist_of_pairwise_level {junctions : List Junction}
    (hlevels : junctions.Pairwise fun earlier later =>
      (Operator.join earlier).level < (Operator.join later).level) :
    junctions.Sublist [.or, .xor, .and] := by
  have hantisymm : Std.Antisymm fun earlier later : Junction =>
      (Operator.join earlier).level < (Operator.join later).level :=
    ⟨fun _ _ hlt hgt => absurd hgt (Nat.lt_asymm hlt)⟩
  have hnodup : junctions.Nodup := hlevels.imp fun hlt heq => by
    rw [heq] at hlt
    exact Nat.lt_irrefl _ hlt
  have hall : junctions ⊆ [.or, .xor, .and] := fun junction _ => by cases junction <;> decide
  have hsubperm := List.subperm_of_subset hnodup hall
  exact List.sublist_of_subperm_of_pairwise hsubperm hlevels (by decide)

def Pending.isJunction : Pending → Bool
  | .operator (.join _) => true
  | _ => false

namespace Arrangement

/-! ## Operators within a group -/

/-- Only a negation or a tighter operator is kept back right above an operator. -/
def MayCover : Pending → Pending → Prop
  | .operator upper, .operator lower => upper = .not ∨ lower.level < upper.level
  | _, _ => True

variable {phrase : Phrase} {symbols : List Symbol} {output : Program} {pending : List Pending}
  {operators : List Operator}

/-- A junction is kept back only above what it has not released. -/
theorem isChain_cons_of_stops {junction : Junction} (hstops : Stops junction pending)
    (hchain : pending.IsChain MayCover) :
    (.operator (.join junction) :: pending : List Pending).IsChain MayCover := by
  rw [List.isChain_cons]
  refine ⟨fun entry hentry => ?_, hchain⟩
  obtain ⟨rest, rfl⟩ := List.head?_eq_some_iff.mp hentry
  cases entry with
  | operator top => exact .inr hstops
  | opening place => trivial

theorem Awaits.isChain (hawaits : Awaits phrase symbols output pending) :
    pending.IsChain MayCover := by
  induction hawaits with
  | start => exact .nil
  | negation _ ih =>
      refine List.isChain_cons.mpr ⟨fun entry _ => ?_, ih⟩
      cases entry with
      | operator top => exact .inl rfl
      | opening place => trivial
  | group _ _ ih => exact List.isChain_cons.mpr ⟨fun _ _ => trivial, ih⟩
  | chain _ _ hstops ih => exact isChain_cons_of_stops hstops ih

/-- An operand changes the output alone: what is kept back behind it was kept back when it was
due. -/
theorem Follows.exists_awaits {state : Arrangement} (hfollows : Follows symbols state) :
    ∃ phrase before earlier, Awaits phrase before earlier state.pending ∧
      (state.expectsOperand = true ∧ state.output = earlier ∨
        state.expectsOperand = false ∧
          ∃ formula : Formula, state.output = formula.program.reverse ++ earlier) := by
  obtain ⟨output, pending, expectsOperand⟩ := state
  cases expectsOperand with
  | true =>
      obtain ⟨phrase, hawaits⟩ := hfollows
      exact ⟨phrase, symbols, output, hawaits, .inl ⟨rfl, rfl⟩⟩
  | false =>
      obtain ⟨awaited, before, text, formula, earlier, hawaits, -, -, -, houtput⟩ := hfollows
      exact ⟨awaited, before, earlier, hawaits, .inr ⟨rfl, formula, houtput⟩⟩

/-- What stands right below a junction is no negation. -/
theorem not_mayCover_not (junction : Junction) :
    ¬MayCover (.operator (.join junction)) (.operator .not) := by
  cases junction <;> simp [MayCover, Operator.level]

/-- Operators that may be kept back one above the other, the latest first, are negations on
junctions of which each binds tighter than all below it. -/
theorem exists_of_isChain_held (hchain : (held operators).IsChain MayCover) :
    ∃ (negations : Nat) (junctions : List Junction),
      operators = List.replicate negations .not ++ junctions.map .join ∧
        junctions.Pairwise fun later earlier =>
          (Operator.join earlier).level < (Operator.join later).level := by
  induction operators with
  | nil => exact ⟨0, [], rfl, .nil⟩
  | cons top operators ih =>
      obtain ⟨hhead, hrest⟩ := List.isChain_cons.mp hchain
      obtain ⟨negations, junctions, rfl, hlevels⟩ := ih hrest
      rcases top with _ | junction
      · exact ⟨negations + 1, junctions, rfl, hlevels⟩
      -- Below a junction there are junctions alone.
      · rcases negations with _ | negations
        · refine ⟨0, junction :: junctions, rfl, List.pairwise_cons.mpr ⟨?_, hlevels⟩⟩
          rcases junctions with _ | ⟨next, junctions⟩
          · simp
          · have hnext : (Operator.join next).level < (Operator.join junction).level := by
              simpa [MayCover] using hhead _ rfl
            intro other hother
            rcases List.mem_cons.mp hother with rfl | hother
            · exact hnext
            · exact Nat.lt_trans ((List.pairwise_cons.mp hlevels).1 other hother) hnext
        · exact absurd (hhead _ rfl) (not_mayCover_not junction)

theorem climbs_of_isChain_held (hchain : (held operators).IsChain MayCover) :
    Climbs operators.reverse := by
  obtain ⟨negations, junctions, rfl, hlevels⟩ := exists_of_isChain_held hchain
  have hclimb := List.pairwise_reverse.mpr hlevels
  exact ⟨junctions.reverse, negations, by simp, sublist_of_pairwise_level hclimb, hclimb⟩

/-! ## Groups that are open -/

/-- What is kept back, taken apart at the open groups: the operators of the innermost one, and
behind the place of each group, from the innermost out, the operators around it.  Of operators
the latest comes first. -/
def layered (innermost : List Operator) (groups : List (Nat × List Operator)) : List Pending :=
  held innermost ++ groups.flatMap fun group => .opening group.1 :: held group.2

theorem exists_layered (pending : List Pending) :
    ∃ innermost groups, pending = layered innermost groups := by
  induction pending with
  | nil => exact ⟨[], [], rfl⟩
  | cons entry pending ih =>
      obtain ⟨innermost, groups, rfl⟩ := ih
      cases entry with
      | operator top => exact ⟨top :: innermost, groups, rfl⟩
      | opening place => exact ⟨[], (place, innermost) :: groups, rfl⟩

theorem openings_held_append (operators : List Operator) (pending : List Pending) :
    openings (held operators ++ pending) = openings pending := by
  induction operators with
  | nil => rfl
  | cons top operators ih => exact ih

theorem openings_layered (innermost : List Operator) (groups : List (Nat × List Operator)) :
    openings (layered innermost groups) = groups.map Prod.fst := by
  rw [layered, openings_held_append]
  induction groups with
  | nil => rfl
  | cons group groups ih =>
      rw [List.flatMap_cons, List.cons_append, List.map_cons]
      exact congrArg (group.1 :: ·) ((openings_held_append _ _).trans ih)

/-- Operators that no open group comes between stand side by side. -/
theorem held_infix_layered {innermost : List Operator} {groups : List (Nat × List Operator)}
    (hmem : operators ∈ innermost :: groups.map Prod.snd) :
    held operators <:+: layered innermost groups := by
  rcases List.mem_cons.mp hmem with rfl | hmem
  · exact (List.prefix_append _ _).isInfix
  · obtain ⟨group, hgroup, rfl⟩ := List.mem_map.mp hmem
    obtain ⟨before, after, rfl⟩ := List.append_of_mem hgroup
    exact ⟨layered innermost before ++ [.opening group.1],
      after.flatMap fun group => .opening group.1 :: held group.2, by simp [layered]⟩

/-- Symbols whose parentheses come in pairs leave the open groups as they are. -/
theorem openings_of_paired {inside : List Symbol} (hinside : Paired inside)
    {state final : Arrangement} {position : Nat}
    (haccept : state.acceptAll position inside = .ok final) :
    openings final.pending = openings state.pending := by
  induction hinside generalizing state final position with
  | nil =>
      cases haccept
      rfl
  | plain _ hopening hclosing ih =>
      obtain ⟨middle, hfirst, hrest⟩ := exists_of_acceptAll_append haccept
      obtain ⟨next, hlast, hend⟩ := exists_of_acceptAll_cons hrest
      cases hend
      rw [openings_accept_of_plain hopening hclosing hlast, ih hfirst]
  | group _ _ ihSymbols ihInside =>
      obtain ⟨middle, hfirst, hrest⟩ := exists_of_acceptAll_append haccept
      obtain ⟨opened, hopening, hrest⟩ := exists_of_acceptAll_cons hrest
      obtain ⟨full, hinside, hrest⟩ := exists_of_acceptAll_append hrest
      obtain ⟨next, hclosing, hend⟩ := exists_of_acceptAll_cons hrest
      cases hend
      obtain ⟨place, hplace⟩ := exists_openings_accept_closing hclosing
      rw [ihInside hinside, openings_accept_opening hopening] at hplace
      rw [← (List.cons.inj hplace).2, ihSymbols hfirst]

theorem openings_of_leftOpen {state : Arrangement} {places : List Nat}
    (hopen : LeftOpen symbols places) (haccept : start.acceptAll 0 symbols = .ok state) :
    openings state.pending = places := by
  induction hopen generalizing state with
  | none hsymbols => exact openings_of_paired hsymbols haccept
  | more _ hinside ih =>
      obtain ⟨middle, hfirst, hrest⟩ := exists_of_acceptAll_append haccept
      obtain ⟨opened, hopening, hlast⟩ := exists_of_acceptAll_cons hrest
      rw [openings_of_paired hinside hlast, openings_accept_opening hopening, ih hfirst,
        Nat.zero_add]

/-- The open groups of a state are the parentheses left open, in order. -/
theorem leftOpen_iff {state : Arrangement} (haccept : start.acceptAll 0 symbols = .ok state)
    {places : List Nat} : LeftOpen symbols places ↔ places = openings state.pending := by
  constructor
  · intro hopen
    exact (openings_of_leftOpen hopen haccept).symm
  · rintro rfl
    exact (tracks_of_acceptAll haccept).leftOpen

/-! ## Heights of the stack -/

theorem height?_append_program {height : Nat}
    (hheight : Program.height? 0 output.reverse = some height) (formula : Formula) :
    Program.height? 0 (formula.program.reverse ++ output).reverse = some (height + 1) := by
  rw [List.reverse_append, List.reverse_reverse, Program.height?_append, hheight]
  exact Program.height?_listOnto formula height []

/-- Where an operand is due, what was put out leaves the left operands of the junctions. -/
theorem Awaits.height?_output (hawaits : Awaits phrase symbols output pending) :
    Program.height? 0 output.reverse = some (pending.countP Pending.isJunction) := by
  induction hawaits with
  | start => rfl
  | negation _ ih =>
      rw [List.countP_cons_of_neg (by simp [Pending.isJunction])]
      exact ih
  | group _ _ ih =>
      rw [List.countP_cons_of_neg (by simp [Pending.isJunction])]
      exact ih
  | chain _ _ _ ih =>
      rw [List.countP_cons_of_pos rfl]
      exact height?_append_program ih _

/-- The values of what was put out, and the operand that may be due, are one more than the
junctions kept back. -/
theorem Follows.exists_height {state : Arrangement} (hfollows : Follows symbols state) :
    ∃ height, Program.height? 0 state.output.reverse = some height ∧
      height + (if state.expectsOperand then 1 else 0) =
        1 + state.pending.countP Pending.isJunction := by
  obtain ⟨phrase, before, earlier, hawaits, ⟨hdue, houtput⟩ | ⟨hdue, formula, houtput⟩⟩ :=
    hfollows.exists_awaits
  · rw [hdue, houtput]
    exact ⟨_, hawaits.height?_output, Nat.add_comm _ _⟩
  · rw [hdue, houtput]
    exact ⟨_, height?_append_program hawaits.height?_output formula, Nat.add_comm _ 1⟩

/-! ## Any symbols that can be read -/

/-- Behind symbols that were read, whatever follows them, the operators kept back within each
open group climb, the open groups are the parentheses left open, and with the operand that may
be due the values of the output are one more than the junctions kept back. -/
theorem layered_of_acceptAll {symbols : List Symbol} {state : Arrangement}
    (haccept : start.acceptAll 0 symbols = .ok state) :
    (∃ innermost groups, state.pending = layered innermost groups ∧
        (∀ operators ∈ innermost :: groups.map Prod.snd, Climbs operators.reverse) ∧
          ∀ places, LeftOpen symbols places ↔ places = groups.map Prod.fst) ∧
      ∃ height, Program.height? 0 state.output.reverse = some height ∧
        height + (if state.expectsOperand then 1 else 0) =
          1 + state.pending.countP Pending.isJunction := by
  have hfollows : Follows symbols state := follows_start.acceptAll haccept
  obtain ⟨phrase, before, earlier, hawaits, -⟩ := hfollows.exists_awaits
  obtain ⟨innermost, groups, hlayered⟩ := exists_layered state.pending
  refine ⟨⟨innermost, groups, hlayered, fun operators hmem => ?_, fun places => ?_⟩,
    hfollows.exists_height⟩
  · have hchain := hawaits.isChain
    rw [hlayered] at hchain
    have hheld := List.IsChain.infix hchain (held_infix_layered hmem)
    exact climbs_of_isChain_held hheld
  · rw [leftOpen_iff haccept, hlayered, openings_layered]

/-- Two parentheses are left open, each behind operators of its own, and an operand is due. -/
theorem layered_of_acceptAll_twoGroups :
    let leaf (column : String) : Condition := .flag (.onColumn column)
    let symbols : List Symbol :=
      [.leaf (leaf "open"), .operator (.join .or), .operator .not, .opening, .leaf (leaf "fan"),
        .operator (.join .xor), .leaf (leaf "stock"), .operator (.join .and), .opening,
        .operator .not]
    let state : Arrangement :=
      { output := [.leaf (leaf "stock"), .leaf (leaf "fan"), .leaf (leaf "open")]
        pending := layered [.not] [(8, [.join .and, .join .xor]), (3, [.not, .join .or])]
        expectsOperand := true }
    start.acceptAll 0 symbols = .ok state ∧
      (∃ innermost groups, state.pending = layered innermost groups ∧
        ∀ operators ∈ innermost :: groups.map Prod.snd, Climbs operators.reverse) ∧
      LeftOpen symbols [8, 3] ∧ Program.height? 0 state.output.reverse = some 3 := by
  intro leaf symbols state
  have haccept : start.acceptAll 0 symbols = .ok state := rfl
  obtain ⟨⟨innermost, groups, hlayered, hclimbs, hopen⟩, height, hheight, hcount⟩ :=
    layered_of_acceptAll haccept
  refine ⟨haccept, ⟨innermost, groups, hlayered, hclimbs⟩, (hopen [8, 3]).mpr ?_, ?_⟩
  · exact (congrArg openings hlayered).trans (openings_layered innermost groups)
  · have hthree : height + 1 = 3 + 1 := hcount
    rw [hheight, Nat.add_right_cancel hthree]

end Arrangement

end FacetFilter
