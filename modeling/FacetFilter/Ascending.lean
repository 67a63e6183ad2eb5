/-!
# Ascending lists

Ids, columns, records and document members are all kept in strictly ascending
order of a key.  Each key then occurs at most once and the order is settled by
the entries, so two collections with the same entries are the same value,
whatever history built them.
-/

namespace FacetFilter

/-- Entries in strictly ascending order of their keys. -/
structure Ascending {α κ : Type} [Ord κ] (key : α → κ) where
  toList : List α
  ascending : toList.Pairwise fun first second => compare (key first) (key second) = .lt
  deriving DecidableEq

namespace Ascending

variable {α κ : Type} [Ord κ] {key : α → κ}

theorem ext {left right : Ascending key} (hlist : left.toList = right.toList) :
    left = right := by
  cases left
  cases right
  cases hlist
  rfl

def empty : Ascending key := ⟨[], .nil⟩

instance : EmptyCollection (Ascending key) := ⟨empty⟩

instance : Inhabited (Ascending key) := ⟨empty⟩

def size (entries : Ascending key) : Nat := entries.toList.length

def isEmpty (entries : Ascending key) : Bool := entries.toList.isEmpty

/-- The entry whose key is `wanted`. -/
def find? (entries : Ascending key) (wanted : κ) : Option α :=
  entries.toList.find? fun entry => compare (key entry) wanted == .eq

def contains (entries : Ascending key) (wanted : κ) : Bool :=
  entries.toList.any fun entry => compare (key entry) wanted == .eq

def filter (keep : α → Bool) (entries : Ascending key) : Ascending key where
  toList := entries.toList.filter keep
  ascending := entries.ascending.filter keep

/-- The keys alone, in the same order. -/
def keys (entries : Ascending key) : Ascending (id : κ → κ) where
  toList := entries.toList.map key
  ascending := by
    rw [List.pairwise_map]
    exact entries.ascending

/-! ## Entries about a key -/

/-- The entries whose keys come before `bound`. -/
def below (key : α → κ) (bound : κ) (entries : List α) : List α :=
  entries.takeWhile fun entry => compare (key entry) bound == .lt

/-- What is left of the entries from the first key past `bound` on. -/
def above (key : α → κ) (bound : κ) (entries : List α) : List α :=
  entries.dropWhile fun entry => compare (key entry) bound != .gt

theorem mem_of_mem_below {bound : κ} {entry : α} {entries : List α}
    (hmem : entry ∈ below key bound entries) : entry ∈ entries :=
  (List.takeWhile_sublist _).subset hmem

theorem mem_of_mem_above {bound : κ} {entry : α} {entries : List α}
    (hmem : entry ∈ above key bound entries) : entry ∈ entries :=
  (List.dropWhile_sublist _).subset hmem

theorem lt_of_mem_below {bound : κ} {entry : α} {entries : List α}
    (hmem : entry ∈ below key bound entries) : compare (key entry) bound = .lt := by
  have hall := List.all_eq_true.mp List.all_takeWhile entry hmem
  simpa using hall

theorem lt_of_mem_above [Std.TransOrd κ] (key : α → κ) {bound : κ} {entry : α}
    {entries : List α}
    (hascending : entries.Pairwise fun first second =>
      compare (key first) (key second) = .lt)
    (hmem : entry ∈ above key bound entries) : compare bound (key entry) = .lt := by
  induction entries with
  | nil => exact absurd hmem List.not_mem_nil
  | cons head tail ih =>
      obtain ⟨hhead, htail⟩ := List.pairwise_cons.mp hascending
      by_cases hgt : compare (key head) bound = .gt
      · have hlt : compare bound (key head) = .lt := Std.OrientedCmp.lt_of_gt hgt
        rw [above, List.dropWhile_cons_of_neg (by simp [hgt])] at hmem
        rcases List.mem_cons.mp hmem with hentry | hentry
        · exact hentry ▸ hlt
        · exact Std.TransCmp.lt_trans hlt (hhead entry hentry)
      · rw [above, List.dropWhile_cons_of_pos (by simp [hgt])] at hmem
        exact ih htail hmem

/-! ## Insertion -/

/-- Puts `entry` between the smaller and the greater keys, in place of an equal one. -/
def insertInto (key : α → κ) (entry : α) (entries : List α) : List α :=
  below key (key entry) entries ++ entry :: above key (key entry) entries

theorem pairwise_insertInto [Std.TransOrd κ] (entry : α) {entries : List α}
    (hascending : entries.Pairwise fun first second =>
      compare (key first) (key second) = .lt) :
    (insertInto key entry entries).Pairwise fun first second =>
      compare (key first) (key second) = .lt := by
  refine List.pairwise_append.mpr
    ⟨hascending.sublist (List.takeWhile_sublist _), List.pairwise_cons.mpr
      ⟨fun other hother => lt_of_mem_above key hascending hother,
        hascending.sublist (List.dropWhile_sublist _)⟩, fun first hfirst second hsecond => ?_⟩
  have hentry := lt_of_mem_below hfirst
  rcases List.mem_cons.mp hsecond with hsecond | hsecond
  · exact hsecond ▸ hentry
  · exact Std.TransCmp.lt_trans hentry (lt_of_mem_above key hascending hsecond)

/-- Adds an entry; one that held the same key gives way. -/
def insert [Std.TransOrd κ] (entries : Ascending key) (entry : α) : Ascending key where
  toList := insertInto key entry entries.toList
  ascending := pairwise_insertInto entry entries.ascending

def insertMany [Std.TransOrd κ] (entries : Ascending key) (added : List α) : Ascending key :=
  added.foldl insert entries

/-- Of the entries that share a key, the last one stays. -/
def ofList [Std.TransOrd κ] (added : List α) : Ascending key :=
  empty.insertMany added

/-! ## Merging two ascending lists of keys -/

def consIf (keep : Bool) (head : κ) (tail : List κ) : List κ :=
  if keep then head :: tail else tail

/-- Whether the first of the keys that do not come before `bound` is `bound` itself. -/
def reaches (bound : κ) (keys : List κ) : Bool :=
  (keys.find? fun other => compare other bound != .lt).any fun other => compare other bound == .eq

/-- The keys that `keep` selects by whether the left and the right list hold them. -/
def mergeLists (keep : Bool → Bool → Bool) : List κ → List κ → List κ
  | [], right => if keep false true then right else []
  | head :: left, right =>
      (if keep false true then below id head right else []) ++
        consIf (keep true (reaches head right)) head
          (mergeLists keep left (above id head right))

/-- Merges the two lists behind the keys merged before, the latest of which comes first.
Nothing is left to do after the recursive call, so long lists need no deep recursion. -/
def mergeOnto (keep : Bool → Bool → Bool) (merged : List κ) : List κ → List κ → List κ
  | [], right => merged.reverseAux (if keep false true then right else [])
  | head :: left, right =>
      let merged := (if keep false true then below id head right else []).reverseAux merged
      mergeOnto keep (consIf (keep true (reaches head right)) head merged) left
        (above id head right)

theorem mergeOnto_eq_append (keep : Bool → Bool → Bool) (merged left right : List κ) :
    mergeOnto keep merged left right = merged.reverse ++ mergeLists keep left right := by
  induction left generalizing merged right with
  | nil => simp [mergeOnto, mergeLists, List.reverseAux_eq]
  | cons head left ih =>
      rw [mergeOnto, ih, mergeLists]
      cases keep true (reaches head right) <;> simp [consIf, List.reverseAux_eq]

omit [Ord κ] in
theorem mem_of_mem_consIf {keep : Bool} {head other : κ} {tail : List κ}
    (hmem : other ∈ consIf keep head tail) : other = head ∨ other ∈ tail := by
  cases keep
  · exact .inr hmem
  · exact List.mem_cons.mp hmem

theorem mem_of_mem_mergeLists {keep : Bool → Bool → Bool} {left right : List κ} {other : κ}
    (hmem : other ∈ mergeLists keep left right) : other ∈ left ∨ other ∈ right := by
  induction left generalizing right with
  | nil =>
      simp only [mergeLists] at hmem
      split at hmem
      · exact .inr hmem
      · exact absurd hmem List.not_mem_nil
  | cons head left ih =>
      rcases List.mem_append.mp hmem with hmem | hmem
      · split at hmem
        · exact .inr (mem_of_mem_below hmem)
        · exact absurd hmem List.not_mem_nil
      · rcases mem_of_mem_consIf hmem with hother | hother
        · exact .inl (hother ▸ List.mem_cons_self)
        · exact (ih hother).imp (List.mem_cons_of_mem head) mem_of_mem_above

omit [Ord κ] in
theorem pairwise_consIf {before : κ → κ → Prop} (keep : Bool) {head : κ} {tail : List κ}
    (hhead : ∀ other ∈ tail, before head other) (htail : tail.Pairwise before) :
    (consIf keep head tail).Pairwise before := by
  cases keep
  · exact htail
  · exact List.pairwise_cons.mpr ⟨hhead, htail⟩

theorem pairwise_mergeLists [Std.TransOrd κ] (keep : Bool → Bool → Bool)
    {left right : List κ}
    (hleft : left.Pairwise fun first second => compare first second = .lt)
    (hright : right.Pairwise fun first second => compare first second = .lt) :
    (mergeLists keep left right).Pairwise fun first second => compare first second = .lt := by
  induction left generalizing right with
  | nil =>
      simp only [mergeLists]
      split
      · exact hright
      · exact .nil
  | cons head left ih =>
      obtain ⟨hhead, htail⟩ := List.pairwise_cons.mp hleft
      have habove : (above id head right).Pairwise fun first second =>
          compare first second = .lt := hright.sublist (List.dropWhile_sublist _)
      have hrest : ∀ other ∈ mergeLists keep left (above id head right),
          compare head other = .lt := fun other hother =>
        (mem_of_mem_mergeLists hother).elim (hhead other) (lt_of_mem_above id hright)
      have hfollow := pairwise_consIf (keep true (reaches head right)) hrest (ih htail habove)
      rw [mergeLists]
      split
      · refine List.pairwise_append.mpr ⟨hright.sublist (List.takeWhile_sublist _), hfollow, ?_⟩
        intro first hfirst second hsecond
        have hlt : compare first head = .lt := lt_of_mem_below hfirst
        rcases mem_of_mem_consIf hsecond with hsecond | hsecond
        · exact hsecond ▸ hlt
        · exact Std.TransCmp.lt_trans hlt (hrest second hsecond)
      · exact hfollow

def merge [Std.TransOrd κ] (keep : Bool → Bool → Bool)
    (left right : Ascending (id : κ → κ)) : Ascending (id : κ → κ) where
  toList := mergeOnto keep [] left.toList right.toList
  ascending := by
    rw [mergeOnto_eq_append]
    exact pairwise_mergeLists keep left.ascending right.ascending

end Ascending

end FacetFilter
