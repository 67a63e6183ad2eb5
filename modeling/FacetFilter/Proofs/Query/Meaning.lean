import Mathlib.Data.Finset.SymmDiff
import Mathlib.Data.List.SplitBy
import FacetFilter.Proofs.IdSet
import FacetFilter.Proofs.Program.Selection
import FacetFilter.Proofs.Query.Expression

/-!
# The meaning of a query

A query means a set of entities, read off its tree: siblings are split at their
disjunctions into runs and these at their exclusive disjunctions, what is left is
intersected, and the sets are put together again.  The grammar groups the text of
the siblings in the same way, so the text denotes the meaning.
-/

namespace FacetFilter

/-- The operation on finite sets that a junction stands for. -/
def Junction.onFinsets : Junction → Finset EntityId → Finset EntityId → Finset EntityId
  | .and => (· ∩ ·)
  | .or => (· ∪ ·)
  | .xor => symmDiff

theorem Junction.toFinset_onSets (junction : Junction) (left right : IdSet) :
    (junction.onSets left right).toFinset =
      junction.onFinsets left.toFinset right.toFinset := by
  cases junction with
  | and => exact IdSet.toFinset_inter left right
  | or => exact IdSet.toFinset_union left right
  | xor => exact IdSet.toFinset_symmDiff left right

namespace Query

/-! ## The meaning of a tree -/

section Siblings

variable {α β : Type}

/-- Splits siblings in front of each one that the junction links; the first link does not
count. -/
def splitAt (junction : Junction) (siblings : List (Option Junction × α)) :
    List (List (Option Junction × α)) :=
  siblings.splitBy fun _ next => next.1 != some junction

/-- The entities that all of the siblings mean. -/
def conjunction (siblings : List (Option Junction × Finset EntityId)) : Finset EntityId :=
  match siblings.map Prod.snd with
  | [] => ∅
  | first :: rest => rest.foldl (· ∩ ·) first

/-- The symmetric difference of the siblings between exclusive disjunctions. -/
def exclusion (siblings : List (Option Junction × Finset EntityId)) : Finset EntityId :=
  ((splitAt .xor siblings).map conjunction).foldl symmDiff ∅

/-- The union of the siblings between disjunctions. -/
def disjunction (siblings : List (Option Junction × Finset EntityId)) : Finset EntityId :=
  ((splitAt .or siblings).map exclusion).foldl (· ∪ ·) ∅

def complementIf (inverted : Bool) (everything members : Finset EntityId) : Finset EntityId :=
  if inverted then everything \ members else members

end Siblings

/-- The entities that a leaf selects; a label that nothing carries selects none. -/
def leafMeaning (settings : Settings) (catalog : Catalog) (leaf : Leaf) : Finset EntityId :=
  match leafCondition settings leaf with
  | .ok condition => (condition.selected catalog).toFinset
  | .error _ => ∅

mutual

def nodeMeaning (settings : Settings) (catalog : Catalog) : Node → Finset EntityId
  | .leaf _ leaf => leafMeaning settings catalog leaf
  | .group _ inverted members =>
      complementIf inverted catalog.ids.toFinset
        (disjunction (nodeMeanings settings catalog members))

/-- The links and meanings of a list of nodes. -/
def nodeMeanings (settings : Settings) (catalog : Catalog) :
    List Node → List (Option Junction × Finset EntityId)
  | [] => []
  | node :: nodes =>
      (node.link, nodeMeaning settings catalog node) :: nodeMeanings settings catalog nodes

end

/-- The entities that a query means. -/
def meaning (settings : Settings) (catalog : Catalog) (query : Query) : Finset EntityId :=
  complementIf query.inverted catalog.ids.toFinset
    (disjunction (nodeMeanings settings catalog query.nodes))

theorem toFinset_selected_negatedIf (inverted : Bool) (formula : Formula) (catalog : Catalog) :
    ((formula.negatedIf inverted).selected catalog).toFinset =
      complementIf inverted catalog.ids.toFinset (formula.selected catalog).toFinset := by
  cases inverted with
  | false => rfl
  | true => exact IdSet.toFinset_complement _ _

/-! ## Splitting siblings -/

section Splitting

variable {α β : Type} {junction : Junction}

theorem splitAt_map (change : α → β) (siblings : List (Option Junction × α)) :
    splitAt junction (siblings.map (Prod.map id change)) =
      (splitAt junction siblings).map (List.map (Prod.map id change)) := by
  rw [splitAt, List.splitBy_eq_iff]
  refine ⟨?_, ?_, ?_, ?_⟩
  · rw [← List.map_flatten, splitAt, List.flatten_splitBy]
  · simp [splitAt, List.nil_notMem_splitBy]
  · intro segment hsegment
    obtain ⟨original, horiginal, rfl⟩ := List.mem_map.mp hsegment
    rw [List.isChain_map]
    exact List.isChain_of_mem_splitBy horiginal
  · rw [List.isChain_map]
    refine (List.isChain_getLast_head_splitBy _ siblings).imp ?_
    rintro first second ⟨hfirst, hsecond, hlink⟩
    exact ⟨by simpa using hfirst, by simpa using hsecond, by simpa using hlink⟩

/-- Every sibling but the first has an allowed link. -/
def Linked (allowed : Option Junction → Prop) (siblings : List (Option Junction × α)) : Prop :=
  ∀ sibling ∈ siblings.tail, allowed sibling.1

/-- A chain that looks at the later element only is a property of the tail. -/
theorem isChain_iff_forall_mem_tail {property : α → Prop} {elements : List α} :
    elements.IsChain (fun _ next => property next) ↔
      ∀ element ∈ elements.tail, property element := by
  cases elements with
  | nil => simp
  | cons first rest =>
      induction rest generalizing first with
      | nil => simp
      | cons second rest ih =>
          have hrest := ih second
          rw [List.tail_cons] at hrest ⊢
          rw [List.isChain_cons_cons, hrest, List.forall_mem_cons]

/-- Within a segment no sibling but the first has the link at which it was split. -/
theorem Linked.of_mem_splitAt {allowed : Option Junction → Prop}
    {siblings segment : List (Option Junction × α)} (hlinked : Linked allowed siblings)
    (hsegment : segment ∈ splitAt junction siblings) :
    Linked (fun link => allowed link ∧ link ≠ some junction) segment := by
  have hwithin : segment <:+: siblings := by
    have hflatten := List.infix_of_mem_flatten hsegment
    rwa [splitAt, List.flatten_splitBy] at hflatten
  have hallowedChain : siblings.IsChain fun _ next => allowed next.1 :=
    isChain_iff_forall_mem_tail.mpr hlinked
  have hallowed : Linked allowed segment :=
    isChain_iff_forall_mem_tail.mp <| List.IsChain.infix hallowedChain hwithin
  have hchain : segment.IsChain fun _ next => (next.1 != some junction) = true :=
    List.isChain_of_mem_splitBy hsegment
  have hsplit := isChain_iff_forall_mem_tail.mp hchain
  intro sibling hsibling
  exact ⟨hallowed sibling hsibling, by simpa using hsplit sibling hsibling⟩

theorem ne_nil_and_subset_of_mem_splitAt {siblings segment : List (Option Junction × α)}
    (hsegment : segment ∈ splitAt junction siblings) : segment ≠ [] ∧ segment ⊆ siblings := by
  refine ⟨List.ne_nil_of_mem_splitBy hsegment, ?_⟩
  have hsubset := (List.infix_of_mem_flatten hsegment).subset
  rwa [splitAt, List.flatten_splitBy] at hsubset

/-- Each segment but the first begins with a sibling that has the link. -/
theorem splitAt_eq_cons {siblings first : List (Option Junction × α)}
    {rest : List (List (Option Junction × α))}
    (hsplit : splitAt junction siblings = first :: rest) :
    siblings = first ++ rest.flatten ∧ first ≠ [] ∧
      ∀ segment ∈ rest, ∃ head tail, segment = (some junction, head) :: tail := by
  have hheads := List.isChain_getLast_head_splitBy (fun _ next => next.1 != some junction) siblings
  have hflatten := List.flatten_splitBy (fun _ next => next.1 != some junction) siblings
  have hnil := List.nil_notMem_splitBy (fun _ next => next.1 != some junction) siblings
  rw [splitAt] at hsplit
  rw [hsplit] at hheads hflatten hnil
  refine ⟨hflatten.symm, fun hfirst => hnil (by simp [hfirst]), fun segment hsegment => ?_⟩
  have hhead := isChain_iff_forall_mem_tail.mp (hheads.imp fun _ _ ⟨_, hhead⟩ => hhead)
    segment hsegment
  obtain ⟨hne, hlink⟩ := hhead
  obtain ⟨⟨link, head⟩, tail, rfl⟩ := List.exists_cons_of_ne_nil hne
  have hlinkEq : link = some junction := by simpa using hlink
  exact ⟨head, tail, by rw [hlinkEq]⟩

end Splitting

/-! ## Phrases and the sets that they denote -/

/-- The text is a phrase whose formula selects the members. -/
def Denotes (catalog : Catalog) (phrase : Phrase) (text : List Symbol)
    (members : Finset EntityId) : Prop :=
  ∃ formula, Derives phrase text formula ∧ (formula.selected catalog).toFinset = members

namespace Denotes

variable {catalog : Catalog} {phrase : Phrase} {text more : List Symbol}
  {members others : Finset EntityId} {junction : Junction}

theorem leaf (catalog : Catalog) (condition : Condition) :
    Denotes catalog .operand [.leaf condition] (condition.selected catalog).toFinset :=
  ⟨_, .leaf condition, rfl⟩

theorem group (hdenotes : Denotes catalog .expression text members) (inverted : Bool) :
    Denotes catalog .operand (negationIf inverted ++ .opening :: (text ++ [.closing]))
      (complementIf inverted catalog.ids.toFinset members) := by
  obtain ⟨formula, hderives, rfl⟩ := hdenotes
  cases inverted with
  | false => exact ⟨formula, .group hderives, rfl⟩
  | true => exact ⟨.negation formula, .negation (.group hderives), IdSet.toFinset_complement _ _⟩

theorem single (hdenotes : Denotes catalog (.below junction) text members) :
    Denotes catalog (.chain junction) text members := by
  obtain ⟨formula, hderives, hselected⟩ := hdenotes
  exact ⟨formula, hderives.single, hselected⟩

theorem extend (hdenotes : Denotes catalog (.chain junction) text members)
    (hlast : Denotes catalog (.below junction) more others) :
    Denotes catalog (.chain junction) (text ++ .operator (.join junction) :: more)
      (junction.onFinsets members others) := by
  obtain ⟨formula, hderives, rfl⟩ := hdenotes
  obtain ⟨last, hderivesLast, rfl⟩ := hlast
  exact ⟨_, hderives.extend hderivesLast, junction.toFinset_onSets _ _⟩

/-- A chain goes on with any number of phrases. -/
theorem extendAll {α : Type} {textOf : α → List Symbol} {membersOf : α → Finset EntityId}
    {rest : List α} (hdenotes : Denotes catalog (.chain junction) text members)
    (hrest : ∀ part ∈ rest, Denotes catalog (.below junction) (textOf part) (membersOf part)) :
    Denotes catalog (.chain junction)
      (text ++ rest.flatMap fun part => .operator (.join junction) :: textOf part)
      ((rest.map membersOf).foldl junction.onFinsets members) := by
  induction rest generalizing text members with
  | nil => simpa using hdenotes
  | cons part rest ih =>
      obtain ⟨hpart, hparts⟩ := List.forall_mem_cons.mp hrest
      have hall := ih (hdenotes.extend hpart) hparts
      simpa using hall

end Denotes

/-! ## Siblings denote their meaning -/

/-- A sibling with its text and the set that it means. -/
abbrev Sibling := Option Junction × (List Symbol × Finset EntityId)

def textOf (siblings : List Sibling) : List Symbol :=
  joined (siblings.map (Prod.map id Prod.fst))

def valuesOf (siblings : List Sibling) : List (Option Junction × Finset EntityId) :=
  siblings.map (Prod.map id Prod.snd)

theorem textOf_append {first : List Sibling} (rest : List Sibling) (hfirst : first ≠ []) :
    textOf (first ++ rest) =
      textOf first ++ rest.flatMap fun sibling => linkSymbols sibling.1 ++ sibling.2.1 := by
  obtain ⟨head, tail, rfl⟩ := List.exists_cons_of_ne_nil hfirst
  simp [textOf, joined, List.flatMap_map]

section Denoting

variable {catalog : Catalog} {siblings : List Sibling}

theorem denotes_conjunction (hne : siblings ≠ [])
    (hoperands : ∀ sibling ∈ siblings, Denotes catalog .operand sibling.2.1 sibling.2.2)
    (hlinked : Linked (· = some .and) siblings) :
    Denotes catalog (.chain .and) (textOf siblings)
      (conjunction (valuesOf siblings)) := by
  obtain ⟨first, rest, rfl⟩ := List.exists_cons_of_ne_nil hne
  obtain ⟨hfirst, hrest⟩ := List.forall_mem_cons.mp hoperands
  have htext : textOf (first :: rest) =
      first.2.1 ++ rest.flatMap fun sibling => .operator (.join .and) :: sibling.2.1 := by
    have happend := textOf_append rest (List.cons_ne_nil first [])
    rw [List.singleton_append] at happend
    rw [happend]
    congr 1
    · simp [textOf, joined]
    · refine List.flatMap_congr fun sibling hsibling => ?_
      rw [hlinked sibling hsibling]
      rfl
  have hmeaning : conjunction (valuesOf (first :: rest)) =
      (rest.map fun sibling => sibling.2.2).foldl Junction.and.onFinsets first.2.2 := by
    simp only [conjunction, valuesOf, List.map_cons, Prod.map_snd, List.map_map]
    rfl
  rw [htext, hmeaning]
  exact hfirst.single.extendAll hrest

/-- Siblings that are split at a junction denote what their segments denote together. -/
theorem denotes_of_splitAt {junction : Junction} (hjunction : junction ≠ .and)
    {meaningOf : List (Option Junction × Finset EntityId) → Finset EntityId} (hne : siblings ≠ [])
    (hsegments : ∀ segment ∈ splitAt junction siblings,
      Denotes catalog (.below junction) (textOf segment) (meaningOf (valuesOf segment))) :
    Denotes catalog (.chain junction) (textOf siblings)
      (((splitAt junction (valuesOf siblings)).map meaningOf).foldl junction.onFinsets ∅) := by
  obtain ⟨first, rest, hsplit⟩ := List.exists_cons_of_ne_nil (List.splitBy_ne_nil.mpr hne)
  obtain ⟨hflatten, hfirstNe, hheads⟩ := splitAt_eq_cons hsplit
  rw [splitAt, hsplit] at hsegments
  obtain ⟨hfirst, hrest⟩ := List.forall_mem_cons.mp hsegments
  have htext : textOf siblings =
      textOf first ++ rest.flatMap fun segment => .operator (.join junction) :: textOf segment := by
    rw [hflatten, textOf_append _ hfirstNe, List.flatten_eq_flatMap, List.flatMap_assoc]
    congr 1
    refine List.flatMap_congr fun segment hsegment => ?_
    obtain ⟨head, tail, rfl⟩ := hheads segment hsegment
    simp [textOf, joined, linkSymbols, List.flatMap_map]
  have hempty : ∀ members, junction.onFinsets ∅ members = members := by
    intro members
    cases junction with
    | and => exact absurd rfl hjunction
    | or => exact Finset.empty_union members
    | xor => exact bot_symmDiff members
  have hmeaning : ((splitAt junction (valuesOf siblings)).map meaningOf).foldl
      junction.onFinsets ∅ =
        (rest.map fun segment => meaningOf (valuesOf segment)).foldl junction.onFinsets
          (meaningOf (valuesOf first)) := by
    rw [valuesOf, splitAt_map, splitAt, hsplit]
    simp only [List.map_cons, List.foldl_cons, hempty, List.map_map]
    rfl
  rw [htext, hmeaning]
  exact hfirst.single.extendAll hrest

theorem denotes_exclusion (hne : siblings ≠ [])
    (hoperands : ∀ sibling ∈ siblings, Denotes catalog .operand sibling.2.1 sibling.2.2)
    (hlinked : Linked (fun link => link.isSome = true ∧ link ≠ some .or) siblings) :
    Denotes catalog (.chain .xor) (textOf siblings)
      (exclusion (valuesOf siblings)) := by
  refine denotes_of_splitAt (by decide) hne fun segment hsegment => ?_
  obtain ⟨hsegmentNe, hsubset⟩ := ne_nil_and_subset_of_mem_splitAt hsegment
  refine denotes_conjunction hsegmentNe (fun sibling hsibling =>
    hoperands sibling (hsubset hsibling)) fun sibling hsibling => ?_
  -- A link that is there and neither of the looser ones is a conjunction.
  obtain ⟨⟨hsome, hor⟩, hxor⟩ := hlinked.of_mem_splitAt hsegment sibling hsibling
  obtain ⟨junction, hjunction⟩ := Option.isSome_iff_exists.mp hsome
  rw [hjunction] at hor hxor ⊢
  cases junction with
  | and => rfl
  | or => exact absurd rfl hor
  | xor => exact absurd rfl hxor

/-- The text of linked siblings denotes their meaning. -/
theorem denotes_disjunction (hne : siblings ≠ [])
    (hoperands : ∀ sibling ∈ siblings, Denotes catalog .operand sibling.2.1 sibling.2.2)
    (hlinked : Linked (fun link => link.isSome = true) siblings) :
    Denotes catalog .expression (textOf siblings)
      (disjunction (valuesOf siblings)) := by
  refine denotes_of_splitAt (by decide) hne fun segment hsegment => ?_
  obtain ⟨hsegmentNe, hsubset⟩ := ne_nil_and_subset_of_mem_splitAt hsegment
  exact denotes_exclusion hsegmentNe (fun sibling hsibling =>
    hoperands sibling (hsubset hsibling)) (hlinked.of_mem_splitAt hsegment)

end Denoting

/-! ## The text of a query -/

/-- The text of nodes denotes their meaning, once each of them has a text that does. -/
theorem denotes_nodes {settings : Settings} {catalog : Catalog} {nodes : List Node}
    {siblings : List Sibling} (hne : nodes ≠ [])
    (hvalues : valuesOf siblings = nodeMeanings settings catalog nodes)
    (hoperands : ∀ sibling ∈ siblings, Denotes catalog .operand sibling.2.1 sibling.2.2)
    (hlinks : ∀ part ∈ (siblings.map (Prod.map id Prod.fst)).tail, part.1.isSome = true) :
    Denotes catalog .expression (textOf siblings)
      (disjunction (nodeMeanings settings catalog nodes)) := by
  rw [← hvalues]
  apply denotes_disjunction _ hoperands
  · intro sibling hsibling
    apply hlinks (Prod.map id Prod.fst sibling)
    rw [← List.map_tail]
    exact List.mem_map_of_mem hsibling
  · rintro rfl
    obtain ⟨first, rest, rfl⟩ := List.exists_cons_of_ne_nil hne
    rw [nodeMeanings] at hvalues
    cases hvalues

mutual

/-- The text of a node denotes its meaning. -/
theorem Written.denotes {settings : Settings} (catalog : Catalog) {node : Node}
    {text : List Symbol} (hwritten : Written settings node text) (hfilled : filled node = true) :
    Denotes catalog .operand text (nodeMeaning settings catalog node) := by
  cases hwritten with
  | @leaf link leaf condition hcondition =>
      rw [nodeMeaning, leafMeaning, hcondition]
      exact .leaf catalog condition
  | @group link inverted members parts hmembers hlinks =>
      rw [filled, Bool.and_eq_true, Bool.not_eq_true', List.isEmpty_eq_false_iff] at hfilled
      obtain ⟨siblings, rfl, hvalues, hoperands⟩ := hmembers.denotes catalog hfilled.2
      rw [nodeMeaning]
      exact (denotes_nodes hfilled.1 hvalues hoperands hlinks).group inverted

theorem WrittenAll.denotes {settings : Settings} (catalog : Catalog) {nodes : List Node}
    {parts : List (Option Junction × List Symbol)} (hwritten : WrittenAll settings nodes parts)
    (hfilled : allFilled nodes = true) :
    ∃ siblings : List Sibling, siblings.map (Prod.map id Prod.fst) = parts ∧
      valuesOf siblings = nodeMeanings settings catalog nodes ∧
        ∀ sibling ∈ siblings, Denotes catalog .operand sibling.2.1 sibling.2.2 := by
  cases hwritten with
  | nil => exact ⟨[], rfl, rfl, by simp⟩
  | @cons node nodes text parts hnode hnodes =>
      rw [allFilled, Bool.and_eq_true] at hfilled
      obtain ⟨siblings, rfl, hvalues, hoperands⟩ := hnodes.denotes catalog hfilled.2
      refine ⟨(node.link, text, nodeMeaning settings catalog node) :: siblings, rfl, ?_,
        List.forall_mem_cons.mpr ⟨hnode.denotes catalog hfilled.1, hoperands⟩⟩
      rw [nodeMeanings, ← hvalues]
      rfl

end

/-- The expression of nodes without an empty group denotes their meaning. -/
theorem denotes_symbols_of_filled {settings : Settings} (catalog : Catalog) {nodes : List Node}
    {emitted : List Symbol} (hne : nodes ≠ [])
    (hsymbols : symbols settings nodes = .ok emitted) (hfilled : allFilled nodes = true) :
    Denotes catalog .expression emitted
      (disjunction (nodeMeanings settings catalog nodes)) := by
  obtain ⟨parts, rfl, hwritten, hlinks⟩ := writtenAll_of_symbols hsymbols
  obtain ⟨siblings, rfl, hvalues, hoperands⟩ := hwritten.denotes catalog hfilled
  exact denotes_nodes hne hvalues hoperands hlinks

/-- The expression of nodes denotes their meaning, unless it has an empty pair of parentheses. -/
theorem denotes_symbols {settings : Settings} (catalog : Catalog) {nodes : List Node}
    {emitted : List Symbol} (hne : nodes ≠ [])
    (hsymbols : symbols settings nodes = .ok emitted) (hpair : ¬[.opening, .closing] <:+: emitted) :
    Denotes catalog .expression emitted
      (disjunction (nodeMeanings settings catalog nodes)) := by
  apply denotes_symbols_of_filled catalog hne hsymbols
  obtain ⟨parts, rfl, hwritten, -⟩ := writtenAll_of_symbols hsymbols
  exact hwritten.filled fun part hpart hwithin => hpair (hwithin.trans (infix_joined hpart))

end Query

end FacetFilter
