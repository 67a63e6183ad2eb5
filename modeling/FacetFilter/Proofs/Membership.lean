import Mathlib.Data.List.Induction
import Mathlib.Data.List.Sort
import Mathlib.Data.List.TakeWhile
import FacetFilter.IdSet

/-!
# Members of ascending collections

An ascending list is settled by its entries, so each operation is known once its
members are.  The merge keeps exactly the keys that its test keeps; union,
intersection, difference and symmetric difference are four instances of that one
fact.
-/

namespace FacetFilter

namespace Ascending

variable {α κ : Type} [Ord κ] {key : α → κ}

instance : Membership α (Ascending key) := ⟨fun entries entry => entry ∈ entries.toList⟩

instance [DecidableEq α] (entry : α) (entries : Ascending key) : Decidable (entry ∈ entries) :=
  inferInstanceAs (Decidable (entry ∈ entries.toList))

@[simp]
theorem mem_toList {entries : Ascending key} {entry : α} :
    entry ∈ entries.toList ↔ entry ∈ entries := Iff.rfl

@[simp]
theorem not_mem_empty (entry : α) : entry ∉ (empty : Ascending key) := List.not_mem_nil

/-- Two collections with the same entries are the same value. -/
theorem ext_of_mem [Std.TransOrd κ] {left right : Ascending key}
    (hmem : ∀ entry, entry ∈ left ↔ entry ∈ right) : left = right := by
  have hasymm : Std.Asymm fun first second : α => compare (key first) (key second) = .lt :=
    ⟨fun first second hlt hgt => by
      rw [Std.OrientedCmp.gt_of_lt hlt] at hgt
      cases hgt⟩
  exact ext (left.ascending.eq_of_mem_iff right.ascending hmem)

theorem nodup_keys [Std.TransOrd κ] (entries : Ascending key) :
    (entries.toList.map key).Nodup := by
  apply entries.keys.ascending.imp
  rintro first second hlt rfl
  have heq : compare first first = .eq := Std.ReflCmp.compare_self
  rw [id, heq] at hlt
  cases hlt

/-- Of entries with the same key there is only one. -/
theorem eq_of_key_eq [Std.TransOrd κ] {entries : Ascending key} {first second : α}
    (hfirst : first ∈ entries) (hsecond : second ∈ entries) (hkey : key first = key second) :
    first = second :=
  List.inj_on_of_nodup_map entries.nodup_keys hfirst hsecond hkey

theorem mem_filter {keep : α → Bool} {entries : Ascending key} {entry : α} :
    entry ∈ entries.filter keep ↔ entry ∈ entries ∧ keep entry = true :=
  List.mem_filter

theorem mem_keys {entries : Ascending key} {wanted : κ} :
    wanted ∈ entries.keys ↔ ∃ entry ∈ entries, key entry = wanted :=
  List.mem_map

theorem contains_iff [Std.LawfulEqOrd κ] {entries : Ascending key} {wanted : κ} :
    entries.contains wanted = true ↔ ∃ entry ∈ entries, key entry = wanted := by
  simp [contains, List.any_eq_true]

/-! ## Entries about a key -/

section AboutKey

variable [Std.TransOrd κ] {bound : κ} {entries : List α} {entry : α}

theorem mem_below_iff
    (hascending : entries.Pairwise fun first second =>
      compare (key first) (key second) = .lt) :
    entry ∈ below key bound entries ↔
      entry ∈ entries ∧ compare (key entry) bound = .lt := by
  refine ⟨fun hmem => ⟨mem_of_mem_below hmem, lt_of_mem_below hmem⟩, ?_⟩
  rintro ⟨hmem, hlt⟩
  induction entries with
  | nil => exact absurd hmem List.not_mem_nil
  | cons head tail ih =>
      obtain ⟨hhead, htail⟩ := List.pairwise_cons.mp hascending
      rcases List.mem_cons.mp hmem with hentry | hentry
      · subst hentry
        rw [below, List.takeWhile_cons_of_pos (by simp [hlt])]
        exact List.mem_cons_self
      · have hbefore : compare (key head) bound = .lt :=
          Std.TransCmp.lt_trans (hhead entry hentry) hlt
        rw [below, List.takeWhile_cons_of_pos (by simp [hbefore])]
        exact List.mem_cons_of_mem head (ih htail hentry)

theorem mem_above_iff
    (hascending : entries.Pairwise fun first second =>
      compare (key first) (key second) = .lt) :
    entry ∈ above key bound entries ↔
      entry ∈ entries ∧ compare bound (key entry) = .lt := by
  refine ⟨fun hmem => ⟨mem_of_mem_above hmem, lt_of_mem_above key hascending hmem⟩, ?_⟩
  rintro ⟨hmem, hlt⟩
  induction entries with
  | nil => exact absurd hmem List.not_mem_nil
  | cons head tail ih =>
      obtain ⟨hhead, htail⟩ := List.pairwise_cons.mp hascending
      by_cases hgt : compare (key head) bound = .gt
      · rw [above, List.dropWhile_cons_of_neg (by simp [hgt])]
        exact hmem
      · rw [above, List.dropWhile_cons_of_pos (by simp [hgt])]
        rcases List.mem_cons.mp hmem with hentry | hentry
        · subst hentry
          exact absurd (Std.OrientedCmp.gt_of_lt hlt) hgt
        · exact ih htail hentry

/-- An inserted entry stands beside the entries with other keys. -/
theorem mem_insert {entries : Ascending key} {added : α} :
    entry ∈ entries.insert added ↔
      entry = added ∨ entry ∈ entries ∧ compare (key entry) (key added) ≠ .eq := by
  have hinserted : entry ∈ entries.insert added ↔
      entry ∈ below key (key added) entries.toList ∨ entry = added ∨
        entry ∈ above key (key added) entries.toList :=
    List.mem_append.trans (or_congr_right List.mem_cons)
  have hswap : compare (key added) (key entry) = .lt ↔
      compare (key entry) (key added) = .gt := Std.OrientedCmp.gt_iff_lt.symm
  rw [hinserted, mem_below_iff entries.ascending, mem_above_iff entries.ascending, mem_toList,
    hswap]
  cases compare (key entry) (key added) <;> simp [or_comm]

end AboutKey

/-! ## Lookup by key -/

section Lookup

variable [Std.TransOrd κ] {entries : Ascending key} {entry : α} {wanted : κ}

theorem find?_eq_some_iff [Std.LawfulEqOrd κ] :
    entries.find? wanted = some entry ↔ entry ∈ entries ∧ key entry = wanted := by
  constructor
  · intro hfind
    have hkey := List.find?_some hfind
    exact ⟨List.mem_of_find?_eq_some hfind, by simpa using hkey⟩
  · rintro ⟨hmem, hkey⟩
    have hsome : (entries.find? wanted).isSome = true :=
      List.find?_isSome.mpr ⟨entry, hmem, by simp [hkey]⟩
    obtain ⟨other, hother⟩ := Option.isSome_iff_exists.mp hsome
    have hotherKey := List.find?_some hother
    rw [hother, eq_of_key_eq (List.mem_of_find?_eq_some hother) hmem]
    rw [hkey]
    simpa using hotherKey

theorem find?_of_mem [Std.LawfulEqOrd κ] (hmem : entry ∈ entries) :
    entries.find? (key entry) = some entry :=
  find?_eq_some_iff.mpr ⟨hmem, rfl⟩

/-- A key is left by a filter if the entry found under it is kept. -/
theorem mem_keys_filter [Std.LawfulEqOrd κ] {keep : α → Bool} :
    wanted ∈ (entries.filter keep).keys ↔ (entries.find? wanted).any keep = true := by
  rw [mem_keys, Option.any_eq_true]
  refine exists_congr fun entry => ?_
  rw [mem_filter, find?_eq_some_iff, and_right_comm]

theorem mem_keys_iff_isSome_find? [Std.LawfulEqOrd κ] :
    wanted ∈ entries.keys ↔ (entries.find? wanted).isSome = true := by
  rw [mem_keys, Option.isSome_iff_exists]
  exact exists_congr fun entry => find?_eq_some_iff.symm

/-- The entry that was inserted is found under its key, and nothing else has changed. -/
theorem find?_insert [Std.LawfulEqOrd κ] [DecidableEq κ] {added : α} :
    (entries.insert added).find? wanted =
      if key added = wanted then some added else entries.find? wanted := by
  apply Option.ext
  intro other
  rw [find?_eq_some_iff, mem_insert]
  split
  · next hkey =>
      subst hkey
      rw [Option.some_inj]
      constructor
      · rintro ⟨rfl | ⟨-, hne⟩, hother⟩
        · rfl
        · exact absurd (Std.compare_eq_iff_eq.mpr hother) hne
      · rintro rfl
        exact ⟨.inl rfl, rfl⟩
  · next hkey =>
      rw [find?_eq_some_iff]
      constructor
      · rintro ⟨rfl | ⟨hmem, -⟩, hother⟩
        · exact absurd hother hkey
        · exact ⟨hmem, hother⟩
      · rintro ⟨hmem, rfl⟩
        exact ⟨.inr ⟨hmem, fun heq => hkey (Std.compare_eq_iff_eq.mp heq).symm⟩, rfl⟩

/-- An entry behind all others is put at the end. -/
theorem toList_insert_of_lt
    (hlt : ∀ other ∈ entries, compare (key other) (key entry) = .lt) :
    (entries.insert entry).toList = entries.toList ++ [entry] := by
  have hbelow : below key (key entry) entries.toList = entries.toList :=
    List.takeWhile_eq_self_iff.mpr fun other hother => by simp [hlt other hother]
  have habove : above key (key entry) entries.toList = [] :=
    List.dropWhile_eq_nil_iff.mpr fun other hother => by simp [hlt other hother]
  change below key (key entry) entries.toList ++ entry :: above key (key entry) entries.toList = _
  rw [hbelow, habove]

theorem toList_insertMany_of_ascending {added : List α}
    (hascending : (entries.toList ++ added).Pairwise fun first second =>
      compare (key first) (key second) = .lt) :
    (entries.insertMany added).toList = entries.toList ++ added := by
  induction added generalizing entries with
  | nil => exact (List.append_nil _).symm
  | cons head tail ih =>
      have hhead : (entries.insert head).toList = entries.toList ++ [head] :=
        toList_insert_of_lt fun other hother =>
          (List.pairwise_append.mp hascending).2.2 other hother head List.mem_cons_self
      rw [List.append_cons, ← hhead] at hascending ⊢
      exact ih hascending

/-- An ascending collection is made again from its entries. -/
theorem ofList_toList (entries : Ascending key) : ofList entries.toList = entries :=
  ext (toList_insertMany_of_ascending entries.ascending)

theorem ofList_append_singleton (added : List α) (entry : α) :
    (ofList (added ++ [entry]) : Ascending key) = (ofList added).insert entry := by
  rw [ofList, insertMany, List.foldl_append]
  rfl

/-- The last of the entries with a key is found under it. -/
theorem find?_ofList [Std.LawfulEqOrd κ] [DecidableEq κ] (added : List α) (wanted : κ) :
    (ofList added : Ascending key).find? wanted =
      added.reverse.find? fun entry => key entry == wanted := by
  induction added using List.reverseRecOn with
  | nil => rfl
  | append_singleton added entry ih =>
      rw [ofList_append_singleton, find?_insert, ih, List.reverse_append]
      by_cases hkey : key entry = wanted <;> simp [hkey]

theorem toList_ofList_eq_nil_iff {added : List α} :
    (ofList added : Ascending key).toList = [] ↔ added = [] := by
  induction added using List.reverseRecOn with
  | nil => exact iff_of_true rfl rfl
  | append_singleton added entry _ =>
      rw [ofList_append_singleton]
      simp [insert, insertInto]

/-- A change that leaves the keys alone leaves the order alone, and what gives way to what. -/
theorem toList_ofList_map {β : Type} {changedKey : β → κ} (change : α → β)
    (hkey : ∀ entry, changedKey (change entry) = key entry) (added : List α) :
    (ofList (added.map change) : Ascending changedKey).toList =
      (ofList added : Ascending key).toList.map change := by
  induction added using List.reverseRecOn with
  | nil => rfl
  | append_singleton added entry ih =>
      rw [List.map_append, List.map_singleton, ofList_append_singleton, ofList_append_singleton]
      simp only [insert, insertInto, below, above, ih, hkey, List.map_append, List.map_cons,
        List.takeWhile_map, List.dropWhile_map, Function.comp_def]

/-- Two collections that find the same under every key are the same. -/
theorem ext_of_find? [Std.LawfulEqOrd κ] {left right : Ascending key}
    (hfind : ∀ wanted, left.find? wanted = right.find? wanted) : left = right := by
  refine ext_of_mem fun entry => ?_
  have hleft : left.find? (key entry) = some entry ↔ entry ∈ left := by simp [find?_eq_some_iff]
  have hright : right.find? (key entry) = some entry ↔ entry ∈ right := by simp [find?_eq_some_iff]
  rw [← hleft, hfind, hright]

end Lookup

/-! ## Collections of keys -/

section Keys

variable [Std.TransOrd κ] [Std.LawfulEqOrd κ]

theorem mem_insertMany {entries : Ascending (id : κ → κ)} {added : List κ} {wanted : κ} :
    wanted ∈ entries.insertMany added ↔ wanted ∈ entries ∨ wanted ∈ added := by
  induction added generalizing entries with
  | nil => simp [insertMany]
  | cons head tail ih =>
      have hstep : entries.insertMany (head :: tail) = (entries.insert head).insertMany tail := rfl
      rw [hstep, ih, mem_insert, List.mem_cons]
      by_cases heq : wanted = head
      · simp [heq]
      · simp [heq]

theorem mem_ofList {added : List κ} {wanted : κ} :
    wanted ∈ (ofList added : Ascending (id : κ → κ)) ↔ wanted ∈ added := by
  rw [ofList, mem_insertMany]
  simp

omit [Std.TransOrd κ] [Std.LawfulEqOrd κ] in
/-- The first key that passes a test is the least one that does. -/
theorem least_of_find? {keys : Ascending (id : κ → κ)} {test : κ → Bool} {found : κ}
    (hfind : keys.toList.find? test = some found) :
    found ∈ keys ∧ test found = true ∧
      ∀ other ∈ keys, test other = true → found = other ∨ compare found other = .lt := by
  obtain ⟨htest, before, after, hlist, hbefore⟩ := List.find?_eq_some_iff_append.mp hfind
  have hascending := keys.ascending
  rw [hlist] at hascending
  have hafter := (List.pairwise_cons.mp (List.pairwise_append.mp hascending).2.1).1
  refine ⟨List.mem_of_find?_eq_some hfind, htest, fun other hmem hother => ?_⟩
  rw [← mem_toList, hlist, List.mem_append, List.mem_cons] at hmem
  rcases hmem with hmem | rfl | hmem
  · have hnot := hbefore other hmem
    rw [hother] at hnot
    cases hnot
  · exact .inl rfl
  · exact .inr (hafter other hmem)

omit [Std.TransOrd κ] in
theorem ne_of_compare_ne_eq {first second : κ} (hcompare : compare first second ≠ .eq) :
    first ≠ second := fun heq => hcompare (Std.compare_eq_iff_eq.mpr heq)

omit [Std.TransOrd κ] [Std.LawfulEqOrd κ] in
/-- Behind a key there are only greater ones. -/
theorem not_mem_of_compare_ne_lt {head wanted : κ} {tail : List κ}
    (hhead : ∀ other ∈ tail, compare head other = .lt) (hcompare : compare head wanted ≠ .lt) :
    wanted ∉ tail := fun hmem => hcompare (hhead wanted hmem)

omit [Std.TransOrd κ] in
theorem reaches_iff {bound : κ} {keys : List κ}
    (hascending : keys.Pairwise fun first second => compare first second = .lt) :
    reaches bound keys = true ↔ bound ∈ keys := by
  induction keys with
  | nil => simp [reaches]
  | cons head tail ih =>
      obtain ⟨hhead, htail⟩ := List.pairwise_cons.mp hascending
      rw [reaches, List.mem_cons]
      cases hcompare : compare head bound with
      | lt =>
          have hne : head ≠ bound := ne_of_compare_ne_eq (by simp [hcompare])
          rw [List.find?_cons_of_neg (by simp [hcompare])]
          exact (ih htail).trans (by simp [hne.symm])
      | eq =>
          rw [List.find?_cons_of_pos (by simp [hcompare])]
          simp [Std.compare_eq_iff_eq.mp hcompare]
      | gt =>
          have hne : head ≠ bound := ne_of_compare_ne_eq (by simp [hcompare])
          have hnotMem : bound ∉ tail := not_mem_of_compare_ne_lt hhead (by simp [hcompare])
          rw [List.find?_cons_of_pos (by simp [hcompare])]
          simp [hne.symm, hnotMem, hcompare]

omit [Std.TransOrd κ] [Std.LawfulEqOrd κ] [Ord κ] in
theorem mem_consIf_iff {keep : Bool} {head wanted : κ} {tail : List κ} :
    wanted ∈ consIf keep head tail ↔ keep = true ∧ wanted = head ∨ wanted ∈ tail := by
  cases keep <;> simp [consIf]

/-- The merge holds the right keys before the first left one, this one, and what the merge of
the rest holds. -/
theorem mem_mergeLists_cons [DecidableEq κ] {keep : Bool → Bool → Bool} {head wanted : κ}
    {left right : List κ}
    (hright : right.Pairwise fun first second => compare first second = .lt) :
    wanted ∈ mergeLists keep (head :: left) right ↔
      keep false true = true ∧ wanted ∈ right ∧ compare wanted head = .lt ∨
        keep true (decide (head ∈ right)) = true ∧ wanted = head ∨
          wanted ∈ mergeLists keep left (above id head right) := by
  have hreaches : reaches head right = decide (head ∈ right) := by
    rw [Bool.eq_iff_iff, reaches_iff hright, decide_eq_true_iff]
  have hbelow : wanted ∈ below id head right ↔ wanted ∈ right ∧ compare wanted head = .lt :=
    mem_below_iff hright
  rw [mergeLists, List.mem_append, mem_consIf_iff, hreaches]
  cases keep false true <;> simp [hbelow]

/-- The merge of two ascending lists holds the keys that `keep` selects by where they occur. -/
theorem mem_mergeLists [DecidableEq κ] {keep : Bool → Bool → Bool}
    (hneither : keep false false = false) {left right : List κ} {wanted : κ}
    (hleft : left.Pairwise fun first second => compare first second = .lt)
    (hright : right.Pairwise fun first second => compare first second = .lt) :
    wanted ∈ mergeLists keep left right ↔
      keep (decide (wanted ∈ left)) (decide (wanted ∈ right)) = true := by
  induction left generalizing right with
  | nil =>
      by_cases hmem : wanted ∈ right <;> cases hkeep : keep false true <;>
        simp [mergeLists, hmem, hkeep, hneither]
  | cons head left ih =>
      obtain ⟨hhead, htail⟩ := List.pairwise_cons.mp hleft
      have habove : (above id head right).Pairwise fun first second =>
          compare first second = .lt := hright.sublist (List.dropWhile_sublist _)
      have hafter : wanted ∈ above id head right ↔
          wanted ∈ right ∧ compare head wanted = .lt := mem_above_iff hright
      rw [mem_mergeLists_cons hright, ih htail habove]
      -- The key stands before the head, at it, or behind it, in both lists alike.
      cases hcompare : compare wanted head with
      | lt =>
          have hne : wanted ≠ head := ne_of_compare_ne_eq (by simp [hcompare])
          have hgt : compare head wanted = .gt := Std.OrientedCmp.gt_of_lt hcompare
          have hnotLeft : wanted ∉ left := not_mem_of_compare_ne_lt hhead (by simp [hgt])
          by_cases hmem : wanted ∈ right <;> simp [hne, hnotLeft, hafter, hgt, hmem, hneither]
      | eq =>
          have hwanted : wanted = head := Std.compare_eq_iff_eq.mp hcompare
          subst hwanted
          have hnotLeft : wanted ∉ left := not_mem_of_compare_ne_lt hhead (by simp)
          simp [hnotLeft, hafter, hneither]
      | gt =>
          have hne : wanted ≠ head := ne_of_compare_ne_eq (by simp [hcompare])
          have hlt : compare head wanted = .lt := Std.OrientedCmp.lt_of_gt hcompare
          simp [hne, hafter, hlt]

theorem mem_merge [DecidableEq κ] {keep : Bool → Bool → Bool} (hneither : keep false false = false)
    {left right : Ascending (id : κ → κ)} {wanted : κ} :
    wanted ∈ left.merge keep right ↔
      keep (decide (wanted ∈ left)) (decide (wanted ∈ right)) = true := by
  have hlist : (left.merge keep right).toList = mergeLists keep left.toList right.toList :=
    mergeOnto_eq_append keep [] left.toList right.toList
  rw [← mem_toList, hlist]
  exact mem_mergeLists hneither left.ascending right.ascending

end Keys

end Ascending

namespace IdSet

variable {left right members everything : IdSet} {id : EntityId}

@[simp]
theorem mem_union : id ∈ union left right ↔ id ∈ left ∨ id ∈ right := by
  rw [union, Ascending.mem_merge rfl]
  simp

@[simp]
theorem mem_inter : id ∈ inter left right ↔ id ∈ left ∧ id ∈ right := by
  rw [inter, Ascending.mem_merge rfl]
  simp

@[simp]
theorem mem_diff : id ∈ diff left right ↔ id ∈ left ∧ id ∉ right := by
  rw [diff, Ascending.mem_merge rfl]
  simp

@[simp]
theorem mem_symmDiff :
    id ∈ symmDiff left right ↔ id ∈ left ∧ id ∉ right ∨ id ∉ left ∧ id ∈ right := by
  rw [symmDiff, Ascending.mem_merge rfl]
  by_cases hleft : id ∈ left <;> by_cases hright : id ∈ right <;> simp [hleft, hright]

@[simp]
theorem mem_complement :
    id ∈ complement members everything ↔ id ∈ everything ∧ id ∉ members := mem_diff

theorem isSubset_iff : isSubset left right = true ↔ ∀ id ∈ left, id ∈ right := by
  have hempty : isSubset left right = true ↔ ∀ id, id ∉ diff left right := by
    rw [isSubset, Ascending.isEmpty, List.isEmpty_iff, List.eq_nil_iff_forall_not_mem]
    rfl
  rw [hempty]
  simp

end IdSet

end FacetFilter
