import FacetFilter.Ascending

/-!
# Sets of entity ids

A selection is a finite set of 32-bit ids, kept as its members in ascending
order.  The binary operations are one merge each, told apart by which members
they keep.
-/

namespace FacetFilter

abbrev EntityId := UInt32

abbrev IdSet := Ascending (id : EntityId → EntityId)

namespace IdSet

def union (left right : IdSet) : IdSet := left.merge (· || ·) right

def inter (left right : IdSet) : IdSet := left.merge (· && ·) right

def diff (left right : IdSet) : IdSet := left.merge (fun inLeft inRight => inLeft && !inRight) right

def symmDiff (left right : IdSet) : IdSet := left.merge (· ^^ ·) right

/-- The members of `everything` that are not in the set. -/
def complement (members everything : IdSet) : IdSet := everything.diff members

/-- Whether no member of `left` is outside `right`. -/
def isSubset (left right : IdSet) : Bool := (left.diff right).isEmpty

theorem pairwise_ofNat_range (first count : Nat) (hbound : first + count ≤ UInt32.size) :
    ((List.range' first count).map UInt32.ofNat).Pairwise fun left right =>
      compare (id left) (id right) = .lt := by
  rw [List.pairwise_map]
  refine (List.pairwise_lt_range' (s := first) (n := count)).imp_of_mem ?_
  intro left right hleft hright hlt
  rw [List.mem_range'_1] at hleft hright
  refine Std.compare_eq_lt.mpr (UInt32.lt_iff_toNat_lt.mpr ?_)
  have hsize : UInt32.size = 2 ^ 32 := rfl
  simp only [id, UInt32.toNat_ofNat']
  omega

/-- Every id from `first` to `last`, both included. -/
def range (first last : EntityId) : IdSet where
  toList := (List.range' first.toNat (last.toNat + 1 - first.toNat)).map UInt32.ofNat
  ascending := by
    by_cases hempty : last.toNat + 1 ≤ first.toNat
    · simp [Nat.sub_eq_zero_of_le hempty]
    · refine pairwise_ofNat_range _ _ ?_
      have hlast := last.toNat_lt
      have hsize : UInt32.size = 2 ^ 32 := rfl
      omega

/-- The members between braces, such as `{1, 2}`. -/
def render (members : IdSet) : String :=
  "\x7b" ++ ", ".intercalate (members.toList.map fun member => toString member.toNat) ++ "\x7d"

end IdSet

end FacetFilter
