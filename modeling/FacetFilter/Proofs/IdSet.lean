import Mathlib.Data.Finset.Card
import Mathlib.Data.Finset.SymmDiff
import Mathlib.Order.Interval.Finset.Nat
import FacetFilter.Proofs.Membership

/-!
# Sets of ids as finite sets

Each operation on sets of ids is the operation of the same name on finite sets.  So what
any operations build is known by its members alone: they are listed once each and in
ascending order, and two sets with the same members are the same value, whatever the
operations were and in whatever order the ids came.
-/

namespace FacetFilter

/-- The members as a finite set. -/
def IdSet.toFinset (members : IdSet) : Finset EntityId := members.toList.toFinset

namespace IdSet

open scoped symmDiff

/-! ## What a set answers -/

section Answers

variable {members left right : IdSet} {id : EntityId}

@[simp]
theorem mem_toFinset : id ∈ members.toFinset ↔ id ∈ members :=
  List.mem_toFinset

theorem pairwise_lt (members : IdSet) : members.toList.Pairwise (· < ·) :=
  members.ascending.imp fun hlt => Std.compare_eq_lt.mp hlt

theorem card_toFinset (members : IdSet) : members.toFinset.card = members.size := by
  have hnodup := members.nodup_keys
  rw [List.map_id] at hnodup
  exact List.toFinset_card_of_nodup hnodup

theorem contains_iff_mem_toFinset : members.contains id = true ↔ id ∈ members.toFinset := by
  rw [Ascending.contains_iff]
  simp

theorem isEmpty_iff_toFinset : members.isEmpty = true ↔ members.toFinset = ∅ := by
  rw [Ascending.isEmpty, List.isEmpty_iff, toFinset, List.toFinset_eq_empty_iff]

theorem isSubset_iff_toFinset :
    isSubset left right = true ↔ left.toFinset ⊆ right.toFinset := by
  rw [isSubset_iff, Finset.subset_iff]
  simp

theorem toFinset_injective : Function.Injective toFinset := by
  intro left right heq
  refine Ascending.ext_of_mem fun id => ?_
  rw [← mem_toFinset, heq, mem_toFinset]

end Answers

/-! ## Operations -/

theorem toFinset_ofList (ids : List EntityId) :
    toFinset (Ascending.ofList ids) = ids.toFinset := by
  ext id
  simp [Ascending.mem_ofList]

theorem toFinset_range (first last : EntityId) :
    (range first last).toFinset = (Finset.Icc first.toNat last.toNat).image UInt32.ofNat := by
  ext id
  have hbounds (number : Nat) :
      number ∈ List.range' first.toNat (last.toNat + 1 - first.toNat) ↔
        number ∈ Finset.Icc first.toNat last.toNat := by
    rw [List.mem_range'_1, Finset.mem_Icc]
    omega
  simp only [toFinset, range, List.mem_toFinset, List.mem_map, Finset.mem_image, hbounds]

theorem toFinset_insert (members : IdSet) (added : EntityId) :
    toFinset (Ascending.insert members added) = Insert.insert added members.toFinset := by
  ext id
  rw [mem_toFinset, Ascending.mem_insert, Finset.mem_insert, mem_toFinset]
  by_cases heq : id = added <;> simp [heq]

theorem toFinset_insertMany (members : IdSet) (ids : List EntityId) :
    toFinset (Ascending.insertMany members ids) = members.toFinset ∪ ids.toFinset := by
  ext id
  simp [Ascending.mem_insertMany]

theorem toFinset_inter (left right : IdSet) :
    (inter left right).toFinset = left.toFinset ∩ right.toFinset := by
  ext id
  simp

theorem toFinset_union (left right : IdSet) :
    (union left right).toFinset = left.toFinset ∪ right.toFinset := by
  ext id
  simp

theorem toFinset_diff (left right : IdSet) :
    (diff left right).toFinset = left.toFinset \ right.toFinset := by
  ext id
  simp

theorem toFinset_symmDiff (left right : IdSet) :
    (symmDiff left right).toFinset = left.toFinset ∆ right.toFinset := by
  ext id
  simp [Finset.mem_symmDiff, and_comm]

theorem toFinset_complement (members everything : IdSet) :
    (complement members everything).toFinset = everything.toFinset \ members.toFinset :=
  toFinset_diff everything members

/-! ## Histories -/

/-- How a set came about. -/
inductive History where
  | empty
  | ofList (ids : List EntityId)
  | range (first last : EntityId)
  | insert (before : History) (id : EntityId)
  | insertMany (before : History) (ids : List EntityId)
  | inter (left right : History)
  | union (left right : History)
  | diff (left right : History)
  | symmDiff (left right : History)
  | complement (members everything : History)

namespace History

/-- The set that the operations give. -/
def build : History → IdSet
  | .empty => .empty
  | .ofList ids => .ofList ids
  | .range first last => .range first last
  | .insert before id => before.build.insert id
  | .insertMany before ids => before.build.insertMany ids
  | .inter left right => left.build.inter right.build
  | .union left right => left.build.union right.build
  | .diff left right => left.build.diff right.build
  | .symmDiff left right => left.build.symmDiff right.build
  | .complement members everything => members.build.complement everything.build

/-- The ids that belong to the set by what the operations mean. -/
def members : History → Finset EntityId
  | .empty => ∅
  | .ofList ids => ids.toFinset
  | .range first last => (Finset.Icc first.toNat last.toNat).image UInt32.ofNat
  | .insert before id => Insert.insert id before.members
  | .insertMany before ids => before.members ∪ ids.toFinset
  | .inter left right => left.members ∩ right.members
  | .union left right => left.members ∪ right.members
  | .diff left right => left.members \ right.members
  | .symmDiff left right => left.members ∆ right.members
  | .complement members everything => everything.members \ members.members

theorem toFinset_build (history : History) : history.build.toFinset = history.members := by
  induction history with
  | empty => rfl
  | ofList ids => exact toFinset_ofList ids
  | range first last => exact toFinset_range first last
  | insert before id ih => rw [build, toFinset_insert, ih, members]
  | insertMany before ids ih => rw [build, toFinset_insertMany, ih, members]
  | inter left right ihLeft ihRight => rw [build, toFinset_inter, ihLeft, ihRight, members]
  | union left right ihLeft ihRight => rw [build, toFinset_union, ihLeft, ihRight, members]
  | diff left right ihLeft ihRight => rw [build, toFinset_diff, ihLeft, ihRight, members]
  | symmDiff left right ihLeft ihRight =>
      rw [build, toFinset_symmDiff, ihLeft, ihRight, members]
  | complement members everything ihMembers ihEverything =>
      rw [build, toFinset_complement, ihMembers, ihEverything, History.members]

theorem mem_build {history : History} {id : EntityId} :
    id ∈ history.build.toList ↔ id ∈ history.members := by
  rw [← toFinset_build, mem_toFinset, Ascending.mem_toList]

theorem build_eq_iff {left right : History} :
    left.build = right.build ↔ left.members = right.members := by
  rw [← toFinset_build, ← toFinset_build, toFinset_injective.eq_iff]

/-- Whatever operations have built a set, its members are listed in ascending order and once
each, and every answer about it is the answer about the finite set of them.  Two sets are equal
exactly if they have the same members, so their histories leave no trace. -/
theorem build_canonical (history other : History) :
    history.build.toList.Pairwise (· < ·) ∧
      (∀ id, id ∈ history.build.toList ↔ id ∈ history.members) ∧
      (∀ id, history.build.contains id = true ↔ id ∈ history.members) ∧
      history.build.size = history.members.card ∧
      (history.build.isEmpty = true ↔ history.members = ∅) ∧
      (history.build.isSubset other.build = true ↔ history.members ⊆ other.members) ∧
      (history.build = other.build ↔ history.members = other.members) ∧
      (history.build.complement other.build).complement other.build =
        history.build.inter other.build := by
  refine ⟨history.build.pairwise_lt, fun id => mem_build, fun id => ?_, ?_, ?_, ?_, build_eq_iff,
    ?_⟩
  · rw [contains_iff_mem_toFinset, toFinset_build]
  · rw [← card_toFinset, toFinset_build]
  · rw [isEmpty_iff_toFinset, toFinset_build]
  · rw [isSubset_iff_toFinset, toFinset_build, toFinset_build]
  · apply toFinset_injective
    rw [toFinset_complement, toFinset_complement, toFinset_inter, sdiff_sdiff_right_self,
      Finset.inf_eq_inter, Finset.inter_comm]

end History

end IdSet

end FacetFilter
