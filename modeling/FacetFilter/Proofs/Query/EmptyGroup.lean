import FacetFilter.Proofs.Program.Parsing
import FacetFilter.Proofs.Query.Meaning

/-!
# Empty groups

The expression of a query is never out of order by itself: links stand between
operands and parentheses come in pairs.  Reading it fails in two cases only, for a
query without nodes and for a group without members.  The first such group is
named by the place of its opening parenthesis among the symbols.
-/

namespace FacetFilter

namespace Arrangement

/-! ## Texts behind which an operand is due -/

/-- Wherever an operand is due, one is due again behind the text. -/
def KeepsDue (text : List Symbol) : Prop :=
  ∀ (position : Nat) (output : Program) (pending : List Pending),
    ∃ (written : Program) (held : List Pending),
      acceptAll ⟨output, pending, true⟩ position text = .ok ⟨written, held, true⟩

theorem keepsDue_nil : KeepsDue [] := fun _ output pending => ⟨output, pending, rfl⟩

theorem KeepsDue.append {first second : List Symbol} (hfirst : KeepsDue first)
    (hsecond : KeepsDue second) : KeepsDue (first ++ second) := by
  intro position output pending
  obtain ⟨written, held, haccept⟩ := hfirst position output pending
  obtain ⟨written', held', haccept'⟩ := hsecond (position + first.length) written held
  refine ⟨written', held', ?_⟩
  rw [acceptAll_append, haccept]
  exact haccept'

theorem keepsDue_not : KeepsDue [.operator .not] := fun _ _ _ => ⟨_, _, rfl⟩

theorem keepsDue_opening : KeepsDue [.opening] := fun _ _ _ => ⟨_, _, rfl⟩

theorem KeepsDue.without_empty_pair {text : List Symbol} (hdue : KeepsDue text) :
    ¬[.opening, .closing] <:+: text := by
  obtain ⟨written, held, haccept⟩ := hdue 0 [] []
  exact not_infix_of_acceptAll haccept

/-- A junction behind an operand waits for the next one. -/
theorem KeepsDue.of_operand {text : List Symbol} {formula : Formula}
    (hderives : Derives .operand text formula) (junction : Junction) :
    KeepsDue (text ++ [.operator (.join junction)]) := by
  intro position output pending
  obtain ⟨written, operators, haccept, -⟩ :=
    reads_of_derives hderives position output pending trivial
  rw [acceptAll_append, haccept]
  exact ⟨_, _, rfl⟩

/-- Within the text an operand is due where a pair of parentheses has nothing in it, and the
opening one stands behind `offset` symbols. -/
def FailsAt (text : List Symbol) (offset : Nat) : Prop :=
  ∃ before after : List Symbol, text = before ++ .opening :: .closing :: after ∧
    before.length = offset ∧ KeepsDue before

/-- The pair of parentheses is the first with nothing in it. -/
theorem FailsAt.first {text : List Symbol} {offset : Nat} (hfails : FailsAt text offset) :
    text[offset]? = some .opening ∧ text[offset + 1]? = some .closing ∧
      ¬[.opening, .closing] <:+: text.take (offset + 1) := by
  obtain ⟨before, after, rfl, rfl, hdue⟩ := hfails
  have hbefore : (before ++ .opening :: .closing :: after).take (before.length + 1) =
      before ++ [.opening] := by
    rw [List.take_length_add_append]
    rfl
  rw [hbefore]
  exact ⟨by simp, by simp, (hdue.append keepsDue_opening).without_empty_pair⟩

theorem FailsAt.append {text : List Symbol} {offset : Nat} (hfails : FailsAt text offset)
    (more : List Symbol) : FailsAt (text ++ more) offset := by
  obtain ⟨before, after, rfl, hlength, hdue⟩ := hfails
  exact ⟨before, after ++ more, by simp, hlength, hdue⟩

theorem FailsAt.prepend {first text : List Symbol} {offset : Nat} (hfails : FailsAt text offset)
    (hfirst : KeepsDue first) : FailsAt (first ++ text) (first.length + offset) := by
  obtain ⟨before, after, rfl, rfl, hdue⟩ := hfails
  exact ⟨first ++ before, after, by simp, by simp, hfirst.append hdue⟩

theorem FailsAt.ofSymbols {text : List Symbol} {offset : Nat} (hfails : FailsAt text offset) :
    Program.ofSymbols text = .error (.emptyGroup offset) := by
  obtain ⟨before, after, rfl, rfl, hdue⟩ := hfails
  obtain ⟨written, held, haccept⟩ := hdue 0 [] []
  rw [Program.ofSymbols, if_neg (by simp), acceptAll_append, start, haccept]
  simp [bind, Except.bind, acceptAll, accept, closingFault]

end Arrangement

namespace Query

open Arrangement

/-! ## Counting symbols -/

mutual

/-- How many symbols a node is written as, its own link left out. -/
def symbolCount : Node → Nat
  | .leaf _ _ => 1
  | .group _ inverted members => (negationIf inverted).length + symbolCounts members + 2

/-- How many symbols siblings are written as, with the links between them. -/
def symbolCounts : List Node → Nat
  | [] => 0
  | node :: nodes => symbolCount node + linkedCounts nodes

/-- How many symbols further siblings are written as, each with its link. -/
def linkedCounts : List Node → Nat
  | [] => 0
  | node :: nodes => 1 + symbolCount node + linkedCounts nodes

end

mutual

/-- How many symbols of a node stand before the first group that has no members. -/
def emptyGroup? : Node → Option Nat
  | .leaf _ _ => none
  | .group _ inverted members =>
      let opening := (negationIf inverted).length
      if members.isEmpty then some opening
      else (emptyGroupAmong? members).map (opening + 1 + ·)

/-- How many symbols of siblings stand before the first group that has no members. -/
def emptyGroupAmong? : List Node → Option Nat
  | [] => none
  | node :: nodes =>
      (emptyGroup? node).or ((emptyGroupAmong? nodes).map (symbolCount node + 1 + ·))

end

mutual

theorem emptyGroup?_eq_none_iff : ∀ node : Node, emptyGroup? node = none ↔ filled node = true
  | .leaf _ _ => by simp [emptyGroup?, filled]
  | .group _ _ [] => by simp [emptyGroup?, filled]
  | .group _ _ (node :: nodes) => by
      have hmembers := emptyGroupAmong?_eq_none_iff (node :: nodes)
      simpa [emptyGroup?, filled] using hmembers

theorem emptyGroupAmong?_eq_none_iff :
    ∀ nodes : List Node, emptyGroupAmong? nodes = none ↔ allFilled nodes = true
  | [] => by simp [emptyGroupAmong?, allFilled]
  | node :: nodes => by
      have hnode := emptyGroup?_eq_none_iff node
      have hnodes := emptyGroupAmong?_eq_none_iff nodes
      simp [emptyGroupAmong?, allFilled, hnode, hnodes]

end

variable {settings : Settings}

/-- Behind the first sibling, its link and the siblings that follow. -/
theorem joined_cons_cons (first : Option Junction × List Symbol) (junction : Junction)
    (text : List Symbol) (rest : List (Option Junction × List Symbol)) :
    joined (first :: (some junction, text) :: rest) =
      first.2 ++ [.operator (.join junction)] ++ joined ((some junction, text) :: rest) := by
  simp [joined, linkSymbols]

theorem joined_singleton (part : Option Junction × List Symbol) : joined [part] = part.2 :=
  List.append_nil _

mutual

theorem Written.length_eq {node : Node} {text : List Symbol}
    (hwritten : Written settings node text) : text.length = symbolCount node := by
  cases hwritten with
  | leaf hcondition => rfl
  | @group link inverted members parts hmembers hlinks =>
      have hjoined := hmembers.length_joined hlinks
      simp only [List.length_append, List.length_cons, List.length_nil, hjoined, symbolCount]
      omega

theorem WrittenAll.length_joined {nodes : List Node}
    {parts : List (Option Junction × List Symbol)} (hwritten : WrittenAll settings nodes parts)
    (hlinks : ∀ part ∈ parts.tail, part.1.isSome = true) :
    (joined parts).length = symbolCounts nodes := by
  cases hwritten with
  | nil => rfl
  | @cons node nodes text parts hnode hnodes =>
      have hlength := hnode.length_eq
      cases hnodes with
      | nil => simpa [joined_singleton, symbolCounts, linkedCounts] using hlength
      | @cons next nodes text' parts hnext hnodes =>
          obtain ⟨hlink, hrest⟩ := List.forall_mem_cons.mp hlinks
          obtain ⟨junction, hjunction⟩ := Option.isSome_iff_exists.mp hlink
          have hrestLength := (WrittenAll.cons hnext hnodes).length_joined hrest
          dsimp only at hjunction
          rw [hjunction] at hrestLength ⊢
          rw [joined_cons_cons, List.length_append, hrestLength]
          simp only [List.length_append, List.length_singleton, hlength, symbolCounts,
            linkedCounts]
          omega

end

/-! ## Where reading stops -/

theorem keepsDue_negationIf (inverted : Bool) : KeepsDue (negationIf inverted) := by
  cases inverted with
  | true => exact keepsDue_not
  | false => exact keepsDue_nil

mutual

theorem Written.failsAt {node : Node} {text : List Symbol} {offset : Nat}
    (hwritten : Written settings node text) (hempty : emptyGroup? node = some offset) :
    FailsAt text offset := by
  cases hwritten with
  | leaf hcondition => cases hempty
  | @group link inverted members parts hmembers hlinks =>
      have hdue := keepsDue_negationIf inverted
      cases members with
      | nil =>
          cases hmembers
          cases hempty
          exact ⟨negationIf inverted, [], rfl, rfl, hdue⟩
      | cons node nodes =>
          obtain ⟨inner, hinner, rfl⟩ := Option.map_eq_some_iff.mp hempty
          have hfails := ((hmembers.failsAt hlinks hinner).append [.closing]).prepend
            (hdue.append keepsDue_opening)
          simpa using hfails

theorem WrittenAll.failsAt {nodes : List Node} {parts : List (Option Junction × List Symbol)}
    {offset : Nat} (hwritten : WrittenAll settings nodes parts)
    (hlinks : ∀ part ∈ parts.tail, part.1.isSome = true)
    (hempty : emptyGroupAmong? nodes = some offset) : FailsAt (joined parts) offset := by
  cases hwritten with
  | nil => cases hempty
  | @cons node nodes text parts hnode hnodes =>
      rcases Option.or_eq_some_iff.mp hempty with hfirst | ⟨hfilled, hrest⟩
      · exact (hnode.failsAt hfirst).append _
      · -- The first sibling is an operand, so the failure lies behind the link that follows it.
        obtain ⟨inner, hinner, rfl⟩ := Option.map_eq_some_iff.mp hrest
        obtain ⟨formula, hderives, -⟩ :=
          hnode.denotes Catalog.empty ((emptyGroup?_eq_none_iff node).mp hfilled)
        cases hnodes with
        | nil => cases hinner
        | @cons next nodes text' parts hnext hnodes =>
            obtain ⟨hlink, hlinks⟩ := List.forall_mem_cons.mp hlinks
            obtain ⟨junction, hjunction⟩ := Option.isSome_iff_exists.mp hlink
            have hfails := (WrittenAll.cons hnext hnodes).failsAt hlinks hinner
            dsimp only at hjunction
            rw [hjunction] at hfails ⊢
            rw [joined_cons_cons, ← hnode.length_eq]
            simpa using hfails.prepend (KeepsDue.of_operand hderives junction)

end

/-- The expression of nodes has no symbols, an empty group or a formula. -/
theorem failsAt_or_derives {nodes : List Node} {emitted : List Symbol}
    (hsymbols : symbols settings nodes = .ok emitted) (hne : nodes ≠ []) :
    (∃ offset, emptyGroupAmong? nodes = some offset ∧ FailsAt emitted offset) ∨
      emptyGroupAmong? nodes = none ∧ ∃ formula, Derives .expression emitted formula := by
  cases hempty : emptyGroupAmong? nodes with
  | some offset =>
      obtain ⟨parts, rfl, hwritten, hlinks⟩ := writtenAll_of_symbols hsymbols
      exact .inl ⟨offset, rfl, hwritten.failsAt hlinks hempty⟩
  | none =>
      have hfilled := (emptyGroupAmong?_eq_none_iff nodes).mp hempty
      obtain ⟨formula, hderives, -⟩ :=
        denotes_symbols_of_filled Catalog.empty hne hsymbols hfilled
      exact .inr ⟨rfl, formula, hderives⟩

/-- Reading the expression of nodes fails where there are no nodes, and where a group is empty,
naming the opening parenthesis of the first such group.  Otherwise it gives a well-formed
program with the conditions of the leaves in the order of the document. -/
theorem ofSymbols_of_symbols (settings : Settings) (nodes : List Node) (emitted : List Symbol)
    (hsymbols : symbols settings nodes = .ok emitted) :
    (Program.ofSymbols emitted = .error .noSymbols ↔ nodes = []) ∧
      ((∃ position, Program.ofSymbols emitted = .error (.emptyGroup position)) ↔
        allFilled nodes = false) ∧
      (∀ position, Program.ofSymbols emitted = .error (.emptyGroup position) ↔
        emptyGroupAmong? nodes = some position) ∧
      (∀ position, emptyGroupAmong? nodes = some position →
        emitted[position]? = some .opening ∧ emitted[position + 1]? = some .closing ∧
          ¬[.opening, .closing] <:+: emitted.take (position + 1)) ∧
      (nodes ≠ [] → allFilled nodes = true →
        ∃ program, Program.ofSymbols emitted = .ok program ∧ program.WellFormed ∧
          (allLeavesOf nodes).map (leafCondition settings) =
            (program.filterMap Instruction.condition?).map .ok ∧
          (program.filterMap Instruction.condition?).length = Node.leafCounts nodes) ∧
      ∀ fault, Program.ofSymbols emitted = .error fault →
        fault = .noSymbols ∨ ∃ position, fault = .emptyGroup position := by
  by_cases hne : nodes = []
  · subst hne
    cases hsymbols
    simp [Program.ofSymbols, allFilled, emptyGroupAmong?]
  have hfilled := emptyGroupAmong?_eq_none_iff nodes
  rcases failsAt_or_derives hsymbols hne with
    ⟨offset, hempty, hfails⟩ | ⟨hempty, formula, hderives⟩
  · have hunfilled : allFilled nodes = false := by
      rw [← Bool.not_eq_true, ← hfilled, hempty]
      simp
    have hfirst := hfails.first
    rw [hfails.ofSymbols, hempty, hunfilled]
    simp [hne, hfirst, eq_comm]
  · have hprogram := ofSymbols_of_derives hderives
    have hconditions := conditions_program hsymbols hderives
    have hlength := congrArg List.length hconditions
    rw [List.length_map, List.length_map, ← leafCounts_eq_length] at hlength
    have hwell := (Program.wellFormed_iff formula.program).mpr ⟨formula, rfl⟩
    rw [hprogram, hempty, hfilled.mp hempty]
    simp [hne, hconditions, hlength, hwell]

/-- A fan, and not what is in a group of an empty group or a stock. -/
def emptyWithinGroup : List Node :=
  [.leaf (some .or) (.flag ⟨some "fan", none, none, false, false, false⟩),
    .group (some .and) true
      [.group none false [],
        .leaf (some .or) (.flag ⟨some "stock", some "is", none, false, false, false⟩)]]

/-- The parentheses of the inner group stand behind four symbols. -/
theorem ofSymbols_of_symbols_emptyWithinGroup :
    ∃ emitted, symbols .standard emptyWithinGroup = .ok emitted ∧ emitted.length = 9 ∧
      Program.ofSymbols emitted = .error (.emptyGroup 4) ∧ emitted[4]? = some .opening := by
  have hread := ofSymbols_of_symbols .standard emptyWithinGroup _ rfl
  exact ⟨_, rfl, rfl, (hread.2.2.1 4).mpr rfl, (hread.2.2.2.1 4 rfl).1⟩

end Query

end FacetFilter
