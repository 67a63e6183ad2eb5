import FacetFilter.Json.Printer
import FacetFilter.Proofs.Json.Number
import FacetFilter.Proofs.Json.StringText

/-!
# Documents written and read

A document that is written without space is read back as the document it was,
whatever its strings hold and however its members are named.  Its numbers have to
be writable, and it may nest no deeper than documents nest.
-/

namespace FacetFilter

namespace Json

mutual

/-- How many arrays and objects a value nests, itself included. -/
def depth : Json → Nat
  | .array items => itemsDepth items + 1
  | .object members => membersDepth members + 1
  | _ => 0

def itemsDepth : List Json → Nat
  | [] => 0
  | item :: items => max item.depth (itemsDepth items)

def membersDepth : List (String × Json) → Nat
  | [] => 0
  | (_, value) :: members => max value.depth (membersDepth members)

end

theorem depth_le_membersDepth {members : List (String × Json)} {name : String} {value : Json}
    (hmem : (name, value) ∈ members) : value.depth ≤ membersDepth members := by
  induction members with
  | nil => cases hmem
  | cons member members ih =>
      rw [membersDepth]
      cases hmem with
      | head => exact Nat.le_max_left _ _
      | tail _ hmem => exact Nat.le_trans (ih hmem) (Nat.le_max_right _ _)

theorem itemsDepth_lt_membersDepth {members : List (String × Json)} {name : String}
    {items : List Json} (hmem : (name, .array items) ∈ members) :
    itemsDepth items < membersDepth members := by
  have hdepth := depth_le_membersDepth hmem
  rw [depth] at hdepth
  exact hdepth

mutual

/-- Whether every number of a value can be written. -/
def IsWritable : Json → Prop
  | .number value => value.IsWritable
  | .array items => ItemsWritable items
  | .object members => MembersWritable members
  | _ => True

def ItemsWritable : List Json → Prop
  | [] => True
  | item :: items => item.IsWritable ∧ ItemsWritable items

def MembersWritable : List (String × Json) → Prop
  | [] => True
  | (_, value) :: members => value.IsWritable ∧ MembersWritable members

end

mutual

/-- What a value is scanned as where it is written. -/
def written : Json → Written
  | .null => .null
  | .bool value => .bool value
  | .number value => .number value.literal
  | .string value => .string (some value)
  | .array items => .array (itemsWritten items) true
  | .object members => .object (membersWritten members) true

def itemsWritten : List Json → List Written
  | [] => []
  | item :: items => item.written :: itemsWritten items

def membersWritten : List (String × Json) → List (Option String × Written)
  | [] => []
  | (name, value) :: members => (some name, value.written) :: membersWritten members

end

theorem itemsWritten_eq_map (items : List Json) : itemsWritten items = items.map written := by
  induction items with
  | nil => rfl
  | cons item items ih => rw [itemsWritten, ih, List.map_cons]

theorem membersWritten_eq_map (members : List (String × Json)) :
    membersWritten members = members.map fun (name, value) => (some name, value.written) := by
  induction members with
  | nil => rfl
  | cons member members ih => rw [membersWritten, ih, List.map_cons]

theorem itemsWritable_iff {items : List Json} :
    ItemsWritable items ↔ ∀ item ∈ items, item.IsWritable := by
  induction items with
  | nil => simp [ItemsWritable]
  | cons item items ih => rw [ItemsWritable, ih, List.forall_mem_cons]

theorem membersWritable_iff {members : List (String × Json)} :
    MembersWritable members ↔ ∀ member ∈ members, member.2.IsWritable := by
  induction members with
  | nil => simp [MembersWritable]
  | cons member members ih => rw [MembersWritable, ih, List.forall_mem_cons]

/-! ## Texts -/

theorem separated_singleton (part : List Char) : separated [part] = part := by
  simp [separated]

theorem separated_cons_cons (part next : List Char) (parts : List (List Char)) :
    separated (part :: next :: parts) = part ++ ',' :: separated (next :: parts) := by
  simp [separated]

theorem exists_separated_cons_eq (part : List Char) (parts : List (List Char)) :
    ∃ tail, separated (part :: parts) = part ++ tail := by
  cases parts with
  | nil => exact ⟨[], by rw [separated_singleton, List.append_nil]⟩
  | cons next parts => exact ⟨_, separated_cons_cons part next parts⟩

namespace Written

def isSpace (char : Char) : Bool := char == ' ' || char == '\t' || char == '\n' || char == '\r'

theorem skipSpace_cons {char : Char} (rest : List Char) (hchar : isSpace char = false) :
    skipSpace (char :: rest) = char :: rest :=
  List.dropWhile_cons_of_neg (by simpa [isSpace] using hchar)

/-! ## Numbers -/

def OpensNumber (char : Char) : Prop := char = '-' ∨ Decimal.isDigit char = true

theorem OpensNumber.ne {char other : Char} (hchar : OpensNumber char)
    (hother : other ≠ '-' ∧ Decimal.isDigit other = false) : char ≠ other := by
  intro heq
  subst heq
  rcases hchar with hsign | hdigit
  · exact hother.1 hsign
  · rw [hother.2] at hdigit
    cases hdigit

theorem OpensNumber.isSpace_eq_false {char : Char} (hchar : OpensNumber char) :
    isSpace char = false := by
  have hblank := hchar.ne (by decide : ' ' ≠ '-' ∧ Decimal.isDigit ' ' = false)
  have htab := hchar.ne (by decide : '\t' ≠ '-' ∧ Decimal.isDigit '\t' = false)
  have hfeed := hchar.ne (by decide : '\n' ≠ '-' ∧ Decimal.isDigit '\n' = false)
  have hreturn := hchar.ne (by decide : '\r' ≠ '-' ∧ Decimal.isDigit '\r' = false)
  simp [isSpace, hblank, htab, hfeed, hreturn]

theorem exists_chars_eq_cons {literal : Decimal.Literal} (hliteral : literal.WellFormed) :
    ∃ char chars, literal.chars = char :: chars ∧ OpensNumber char := by
  obtain ⟨digit, digits, hwhole⟩ := List.exists_cons_of_ne_nil hliteral.whole_ne_nil
  rw [Decimal.Literal.chars, hwhole]
  cases literal.negative with
  | true => exact ⟨'-', _, rfl, .inl rfl⟩
  | false =>
      refine ⟨digit, _, rfl, .inr ?_⟩
      apply hliteral.whole
      rw [hwhole]
      exact List.mem_cons_self

variable {calls : Nat} {rest : List Char}

theorem scanPlain_number {literal : Decimal.Literal} (hliteral : literal.WellFormed)
    (hrest : EndsValue rest) : scanPlain (literal.chars ++ rest) = (.number literal, some rest) := by
  have hscan := scanNumber?_append hliteral hrest
  obtain ⟨char, chars, hchars, hopens⟩ := exists_chars_eq_cons hliteral
  have hn := hopens.ne (by decide : 'n' ≠ '-' ∧ Decimal.isDigit 'n' = false)
  have ht := hopens.ne (by decide : 't' ≠ '-' ∧ Decimal.isDigit 't' = false)
  have hf := hopens.ne (by decide : 'f' ≠ '-' ∧ Decimal.isDigit 'f' = false)
  rw [hchars, List.cons_append] at hscan ⊢
  simp [scanPlain, hn, ht, hf, hscan]

theorem scanValue_plain {char : Char} (hspace : isSpace char = false) (hquote : char ≠ '"')
    (hbracket : char ≠ '[') (hbrace : char ≠ '\x7b') :
    scanValue (calls + 1) (char :: rest) = scanPlain (char :: rest) := by
  simp [scanValue, skipSpace_cons rest hspace, hquote, hbracket, hbrace]

theorem scanValue_number {literal : Decimal.Literal} (hliteral : literal.WellFormed)
    (hrest : EndsValue rest) :
    scanValue (calls + 1) (literal.chars ++ rest) = (.number literal, some rest) := by
  rw [← scanPlain_number hliteral hrest]
  obtain ⟨char, chars, hchars, hopens⟩ := exists_chars_eq_cons hliteral
  rw [hchars, List.cons_append]
  apply scanValue_plain hopens.isSpace_eq_false
  · exact hopens.ne (by decide : '"' ≠ '-' ∧ Decimal.isDigit '"' = false)
  · exact hopens.ne (by decide : '[' ≠ '-' ∧ Decimal.isDigit '[' = false)
  · exact hopens.ne (by decide : '\x7b' ≠ '-' ∧ Decimal.isDigit '\x7b' = false)

/-! ## Strings, arrays and objects -/

theorem skipSpace_stringChars (text : String) (rest : List Char) :
    skipSpace (stringChars text ++ rest) =
      '"' :: (text.toList.flatMap escapeChar ++ '"' :: rest) := by
  rw [stringChars, List.cons_append, skipSpace_cons _ rfl, List.append_assoc]
  rfl

theorem scanValue_string (text : String) (rest : List Char) :
    scanValue (calls + 1) (stringChars text ++ rest) = (.string (some text), some rest) := by
  obtain ⟨units, hscan, htext⟩ := exists_scanString?_stringChars text rest
  simp only [scanValue, skipSpace_stringChars, hscan, htext]

theorem scanValue_array {char : Char} {text : List Char} {items : List Written}
    (hspace : isSpace char = false) (hclose : char ≠ ']')
    (hitems : scanItems calls (char :: text) = (items, some rest)) :
    scanValue (calls + 1) ('[' :: char :: text) = (.array items true, some rest) := by
  have hopen : skipSpace ('[' :: char :: text) = '[' :: char :: text := skipSpace_cons _ rfl
  simp [scanValue, hopen, skipSpace_cons text hspace, hclose, hitems]

theorem scanValue_object {text : List Char} {members : List (Option String × Written)}
    (hmembers : scanMembers calls ('"' :: text) = (members, some rest)) :
    scanValue (calls + 1) ('\x7b' :: '"' :: text) = (.object members true, some rest) := by
  simp [scanValue, skipSpace_cons, isSpace, hmembers]

variable {text tail : List Char}

theorem scanItems_last {item : Written}
    (hitem : scanValue calls text = (item, some (']' :: rest))) :
    scanItems (calls + 1) text = ([item], some rest) := by
  simp [scanItems, hitem, skipSpace_cons, isSpace]

theorem scanItems_cons {item : Written} {items : List Written}
    (hitem : scanValue calls text = (item, some (',' :: tail)))
    (hitems : scanItems calls tail = (items, some rest)) :
    scanItems (calls + 1) text = (item :: items, some rest) := by
  simp [scanItems, hitem, hitems, skipSpace_cons, isSpace]

theorem scanMembers_last (name : String) {value : Written}
    (hvalue : scanValue calls text = (value, some ('\x7d' :: rest))) :
    scanMembers (calls + 1) (stringChars name ++ ':' :: text) =
      ([(some name, value)], some rest) := by
  obtain ⟨units, hscan, hname⟩ := exists_scanString?_stringChars name (':' :: text)
  simp [scanMembers, skipSpace_stringChars, hscan, hname, hvalue, skipSpace_cons, isSpace]

theorem scanMembers_cons (name : String) {value : Written}
    {members : List (Option String × Written)}
    (hvalue : scanValue calls text = (value, some (',' :: tail)))
    (hmembers : scanMembers calls tail = (members, some rest)) :
    scanMembers (calls + 1) (stringChars name ++ ':' :: text) =
      ((some name, value) :: members, some rest) := by
  obtain ⟨units, hscan, hname⟩ := exists_scanString?_stringChars name (':' :: text)
  simp [scanMembers, skipSpace_stringChars, hscan, hname, hvalue, hmembers, skipSpace_cons, isSpace]

end Written

/-- What is written for a value begins with neither space nor a closing bracket. -/
theorem exists_chars_eq_cons {json : Json} (hwritable : json.IsWritable) :
    ∃ char text, json.chars = char :: text ∧ Written.isSpace char = false ∧ char ≠ ']' := by
  cases json with
  | null => exact ⟨'n', _, rfl, rfl, by decide⟩
  | bool value => cases value <;> exact ⟨_, _, rfl, rfl, by decide⟩
  | number value =>
      obtain ⟨char, text, htext, hopens⟩ :=
        Written.exists_chars_eq_cons (Number.wellFormed_literal hwritable)
      refine ⟨char, text, ?_, hopens.isSpace_eq_false, ?_⟩
      · rw [chars, Number.toList_render hwritable, htext]
      · exact hopens.ne (by decide)
  | string value => exact ⟨'"', _, rfl, rfl, by decide⟩
  | array items => exact ⟨'[', _, rfl, rfl, by decide⟩
  | object members => exact ⟨'\x7b', _, rfl, rfl, by decide⟩

theorem length_chars_pos {json : Json} (hwritable : json.IsWritable) : 0 < json.chars.length := by
  obtain ⟨char, text, hchars, -⟩ := exists_chars_eq_cons hwritable
  rw [hchars]
  exact Nat.zero_lt_succ _

mutual

/-- A value is read from what is written for it, and what follows is left. -/
theorem scanValue_append : ∀ (json : Json) (calls : Nat) (rest : List Char), json.IsWritable →
    EndsValue rest → 2 * json.chars.length ≤ calls →
      Written.scanValue calls (json.chars ++ rest) = (json.written, some rest)
  | json, 0, _, hwritable, _, hcalls => by
      have hpos := length_chars_pos hwritable
      omega
  | .null, _ + 1, _, _, _, _ => rfl
  | .bool true, _ + 1, _, _, _, _ => rfl
  | .bool false, _ + 1, _, _, _, _ => rfl
  | .number value, _ + 1, _, hwritable, hrest, _ => by
      rw [chars, Number.toList_render hwritable]
      exact Written.scanValue_number (Number.wellFormed_literal hwritable) hrest
  | .string value, _ + 1, rest, _, _, _ => Written.scanValue_string value rest
  | .array [], _ + 1, _, _, _, _ => rfl
  | .array (item :: items), calls + 1, rest, hwritable, _, hcalls => by
      have hitems := scanItems_append item items calls rest hwritable (by
        simp only [chars, List.length_cons, List.length_append] at hcalls
        omega)
      obtain ⟨char, text, hchars, hspace, hclose⟩ := exists_chars_eq_cons hwritable.1
      obtain ⟨tail, htail⟩ := exists_separated_cons_eq item.chars (itemsChars items)
      rw [chars, List.cons_append, List.append_assoc]
      rw [itemsChars, htail, hchars] at hitems ⊢
      exact Written.scanValue_array hspace hclose hitems
  | .object [], _ + 1, _, _, _, _ => rfl
  | .object ((name, value) :: members), calls + 1, rest, hwritable, _, hcalls => by
      have hmembers := scanMembers_append name value members calls rest hwritable (by
        simp only [chars, List.length_cons, List.length_append] at hcalls
        omega)
      obtain ⟨tail, htail⟩ :=
        exists_separated_cons_eq (stringChars name ++ ':' :: value.chars) (membersChars members)
      rw [chars, List.cons_append, List.append_assoc]
      rw [membersChars, htail] at hmembers ⊢
      exact Written.scanValue_object hmembers

theorem scanItems_append : ∀ (item : Json) (items : List Json) (calls : Nat) (rest : List Char),
    ItemsWritable (item :: items) →
      2 * (separated (itemsChars (item :: items))).length + 1 ≤ calls →
        Written.scanItems calls (separated (itemsChars (item :: items)) ++ ']' :: rest) =
          (itemsWritten (item :: items), some rest)
  | _, _, 0, _, _, hcalls => nomatch hcalls
  | item, [], calls + 1, rest, hwritable, hcalls => by
      rw [itemsChars, itemsChars, separated_singleton] at hcalls ⊢
      have hitem := scanValue_append item calls (']' :: rest) hwritable.1
        (EndsValue.cons rest (by simp)) (by omega)
      exact Written.scanItems_last hitem
  | item, next :: items, calls + 1, rest, hwritable, hcalls => by
      rw [itemsChars, itemsChars, separated_cons_cons, ← itemsChars] at hcalls ⊢
      rw [List.length_append, List.length_cons] at hcalls
      have hitem := scanValue_append item calls
        (',' :: (separated (itemsChars (next :: items)) ++ ']' :: rest)) hwritable.1
        (EndsValue.cons _ (by simp)) (by omega)
      have hitems := scanItems_append next items calls rest hwritable.2 (by omega)
      rw [List.append_assoc]
      exact Written.scanItems_cons hitem hitems

theorem scanMembers_append : ∀ (name : String) (value : Json) (members : List (String × Json))
    (calls : Nat) (rest : List Char), MembersWritable ((name, value) :: members) →
      2 * (separated (membersChars ((name, value) :: members))).length + 1 ≤ calls →
        Written.scanMembers calls
            (separated (membersChars ((name, value) :: members)) ++ '\x7d' :: rest) =
          (membersWritten ((name, value) :: members), some rest)
  | _, _, _, 0, _, _, hcalls => nomatch hcalls
  | name, value, [], calls + 1, rest, hwritable, hcalls => by
      rw [membersChars, membersChars, separated_singleton] at hcalls ⊢
      rw [List.length_append, List.length_cons] at hcalls
      have hvalue := scanValue_append value calls ('\x7d' :: rest) hwritable.1
        (EndsValue.cons rest (by simp)) (by omega)
      rw [List.append_assoc]
      exact Written.scanMembers_last name hvalue
  | name, value, (nextName, next) :: members, calls + 1, rest, hwritable, hcalls => by
      rw [membersChars, membersChars, separated_cons_cons, ← membersChars] at hcalls ⊢
      rw [List.length_append, List.length_append, List.length_cons, List.length_cons] at hcalls
      have hvalue := scanValue_append value calls
        (',' :: (separated (membersChars ((nextName, next) :: members)) ++ '\x7d' :: rest))
        hwritable.1 (EndsValue.cons _ (by simp)) (by omega)
      have hmembers := scanMembers_append nextName next members calls rest hwritable.2 (by omega)
      rw [List.append_assoc, List.append_assoc]
      exact Written.scanMembers_cons name hvalue hmembers

end

theorem ofText_render_eq_written {json : Json} (hwritable : json.IsWritable) :
    Written.ofText json.render = (json.written, true) := by
  have hscan := scanValue_append json (2 * json.chars.length + 2) [] hwritable EndsValue.nil
    (by omega)
  rw [List.append_nil] at hscan
  simp [Written.ofText, render, hscan, Written.skipSpace]

/-! ## Values -/

mutual

/-- What is scanned where a value is written denotes the value. -/
theorem toJson?_written : ∀ (json : Json) (limit : Nat), json.IsWritable → json.depth ≤ limit →
    json.written.toJson? limit = some json
  | .null, _, _, _ => rfl
  | .bool _, _, _, _ => rfl
  | .number value, _, hwritable, _ => by
      rw [written, Written.toJson?, Number.ofLiteral?_literal hwritable]
      rfl
  | .string _, _, _, _ => rfl
  | .array items, limit, hwritable, hdepth => by
      rw [depth] at hdepth
      have hlimit : (limit != 0) = true := by simp; omega
      have hitems := itemsToJson?_written items (limit - 1) hwritable (by omega)
      simp [written, Written.toJson?, hlimit, hitems]
  | .object members, limit, hwritable, hdepth => by
      rw [depth] at hdepth
      have hlimit : (limit != 0) = true := by simp; omega
      have hmembers := membersToJson?_written members (limit - 1) hwritable (by omega)
      simp [written, Written.toJson?, hlimit, hmembers]

theorem itemsToJson?_written : ∀ (items : List Json) (limit : Nat), ItemsWritable items →
    itemsDepth items ≤ limit → Written.itemsToJson? limit (itemsWritten items) = some items
  | [], _, _, _ => rfl
  | item :: items, limit, hwritable, hdepth => by
      rw [itemsDepth] at hdepth
      have hitem := toJson?_written item limit hwritable.1 (by omega)
      have hitems := itemsToJson?_written items limit hwritable.2 (by omega)
      simp [itemsWritten, Written.itemsToJson?, hitem, hitems]

theorem membersToJson?_written : ∀ (members : List (String × Json)) (limit : Nat),
    MembersWritable members → membersDepth members ≤ limit →
      Written.membersToJson? limit (membersWritten members) = some members
  | [], _, _, _ => rfl
  | (name, value) :: members, limit, hwritable, hdepth => by
      rw [membersDepth] at hdepth
      have hvalue := toJson?_written value limit hwritable.1 (by omega)
      have hmembers := membersToJson?_written members limit hwritable.2 (by omega)
      simp [membersWritten, Written.membersToJson?, hvalue, hmembers]

end

/-- A document is read back as it was written. -/
theorem parse?_render {json : Json} (hwritable : json.IsWritable) (hdepth : json.depth ≤ maxDepth) :
    parse? json.render = some json := by
  rw [parse?, ofText_render_eq_written hwritable]
  exact toJson?_written json maxDepth hwritable hdepth

end Json

end FacetFilter
