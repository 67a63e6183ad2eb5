import FacetFilter.Proofs.Query.Expression

/-!
# Defects of leaves

A leaf is defective where its column, its operation or its value is missing or is none
that it may have.  The three are looked for in this order, and the first one found is
what the leaf is refused for.
-/

namespace FacetFilter

namespace Leaf

/-- What the faults of a leaf are about. -/
@[simp]
def subject : Leaf → Subject
  | .text _ => .text
  | .number _ => .number
  | .flag _ => .boolean
  | .label kind _ => .label kind

def operation? : Leaf → Option String
  | .text leaf => leaf.operation
  | .number leaf => leaf.operation
  | .flag leaf => leaf.operation
  | .label _ leaf => leaf.operation

/-- The names of the operations that a leaf may ask for. -/
def operationNames : Leaf → List String
  | .text _ => ["exact", "is", "startswith", "endswith", "contains"]
  | .number _ => ["==", "=", "!=", "<", "<=", ">", ">="]
  | .flag _ => ["is", "=="]
  | .label _ _ => ["has", "has_only"]

/-- The name that is looked up: blanks around it do not count, nor does case in a text leaf. -/
def lookedUp (leaf : Leaf) (given : String) : String :=
  match leaf with
  | .text _ => Text.lowerAscii (Text.trim given)
  | _ => Text.trim given

def knowsOperation (leaf : Leaf) (given : String) : Bool :=
  leaf.operationNames.contains (leaf.lookedUp given)

/-- The name that the fault of an unknown operation shows. -/
def shown (leaf : Leaf) (given : String) : String :=
  match leaf with
  | .text _ | .label _ _ => given
  | .number _ | .flag _ => Text.trim given

/-- Labels are in no column. -/
def columnDefect? (leaf : Leaf) : Option QueryFault :=
  match leaf with
  | .text content | .number content | .flag content =>
      if content.columnName.getD "" = "" then some (.missingColumn leaf.subject) else none
  | .label _ _ => none

def nameDefect? (leaf : Leaf) (given : String) : Option QueryFault :=
  if leaf.knowsOperation given then none
  else some (.unknownOperation leaf.subject (leaf.shown given))

/-- A flag leaf may leave its operation out. -/
def operationDefect? (leaf : Leaf) : Option QueryFault :=
  match leaf.operation? with
  | none => if leaf.subject = .boolean then none else some (.missingOperation leaf.subject)
  | some given => leaf.nameDefect? given

/-- The value of a flag leaf is of no account, and that of a number leaf has to be a number. -/
def valueDefect? (leaf : Leaf) : Option QueryFault :=
  match leaf.value? with
  | none => if leaf.subject = .boolean then none else some (.invalidValue leaf.subject "null")
  | some literal =>
      if leaf.subject = .number ∧ literal.toNumber? = none then
        some (.invalidValue .number literal.toText)
      else none

theorem valueDefect?_flag (leaf : ColumnLeaf) : (flag leaf).valueDefect? = none := by
  rw [valueDefect?, value?]
  cases leaf.value <;> rfl

/-- The defects of the leaf in the order in which they are looked for. -/
def defects (leaf : Leaf) : List QueryFault :=
  leaf.columnDefect?.toList ++ leaf.operationDefect?.toList ++ leaf.valueDefect?.toList

theorem head?_defects (leaf : Leaf) :
    leaf.defects.head? =
      leaf.columnDefect?.or (leaf.operationDefect?.or leaf.valueDefect?) := by
  simp [defects]

/-! ### Names of operations -/

theorem isSome_textTest (leaf : ColumnLeaf) (given : String) :
    (TextTest.ofText? given).isSome = (text leaf).knowsOperation given := by
  simp only [knowsOperation, operationNames, lookedUp]
  rw [TextTest.ofText?]
  generalize Text.lowerAscii (Text.trim given) = name
  split <;> simp_all

theorem isSome_comparison (leaf : ColumnLeaf) (given : String) :
    (Comparison.ofText? (Text.trim given)).isSome = (number leaf).knowsOperation given := by
  simp only [knowsOperation, operationNames, lookedUp]
  generalize Text.trim given = name
  rw [Comparison.ofText?.eq_def]
  split <;> simp_all

theorem isSome_labelTest (kind : LabelKind) (leaf : LabelLeaf) (given : String) :
    (LabelTest.ofText? (Text.trim given)).isSome = (label kind leaf).knowsOperation given := by
  simp only [knowsOperation, operationNames, lookedUp]
  generalize Text.trim given = name
  rw [LabelTest.ofText?.eq_def]
  split <;> simp_all

end Leaf

namespace Query

/-! ## Checks and their defects -/

/-- The check fails with the defect or, where there is none, gives a value of this kind. -/
inductive Ends {α : Type} (kind : α → Prop) : Option QueryFault → Except QueryFault α → Prop
  | fails (fault : QueryFault) : Ends kind (some fault) (.error fault)
  | gives {value : α} (hkind : kind value) : Ends kind none (.ok value)

section Checks

variable {α β : Type} {kind : α → Prop} {checked : Except QueryFault α}

/-- Of two checks in sequence the first defect counts. -/
theorem Ends.bind {first second : Option QueryFault} {next : α → Except QueryFault β}
    {other : β → Prop} (hchecked : Ends kind first checked)
    (hnext : ∀ value, kind value → Ends other second (next value)) :
    Ends other (first.or second) (checked >>= next) := by
  cases hchecked with
  | fails fault => exact .fails fault
  | gives hkind => exact hnext _ hkind

/-- What is done with the value of a check has no defect of its own. -/
theorem Ends.map {defect : Option QueryFault} {next : α → β} {other : β → Prop}
    (hchecked : Ends kind defect checked) (hnext : ∀ value, kind value → other (next value)) :
    Ends other defect (checked >>= fun value => pure (next value)) := by
  cases hchecked with
  | fails fault => exact .fails fault
  | gives hkind => exact .gives (hnext _ hkind)

theorem Ends.eq_error_iff {defect : Option QueryFault} (hends : Ends kind defect checked)
    (fault : QueryFault) : checked = .error fault ↔ defect = some fault := by
  cases hends with
  | fails found => simp
  | gives hkind => simp

end Checks

/-! ## The checks of a leaf -/

/-- Any value will do. -/
abbrev Anything {α : Type} (_ : α) : Prop := True

theorem checkColumn_of_filled {name : String} (settings : Settings) (subject : Subject)
    {leaf : ColumnLeaf} (hname : leaf.columnName = some name) (hfilled : name ≠ "") :
    checkColumn settings subject leaf = .ok (settings.resolve name) := by
  rw [checkColumn, hname]
  split <;> simp_all

theorem ends_checkColumn (settings : Settings) (subject : Subject) (leaf : ColumnLeaf) :
    Ends Anything (if leaf.columnName.getD "" = "" then some (.missingColumn subject) else none)
      (checkColumn settings subject leaf) := by
  cases hname : leaf.columnName with
  | none =>
      rw [checkColumn, hname]
      exact .fails _
  | some name =>
      by_cases hempty : name = ""
      · subst hempty
        rw [checkColumn, hname]
        exact .fails _
      · rw [Option.getD_some, if_neg hempty, checkColumn_of_filled settings subject hname hempty]
        exact .gives trivial

/-- A name is read where it is one of those that there are. -/
theorem ends_of_found {α : Type} {leaf : Leaf} {given : String} {found : Option α}
    {read : Except QueryFault α} (hknows : found.isSome = leaf.knowsOperation given)
    (hsome : ∀ test, found = some test → read = .ok test)
    (hnone : found = none → read = .error (.unknownOperation leaf.subject (leaf.shown given))) :
    Ends Anything (leaf.nameDefect? given) read := by
  rw [Leaf.nameDefect?, ← hknows]
  cases hfound : found with
  | none =>
      rw [hnone hfound]
      exact .fails _
  | some test =>
      rw [hsome test hfound]
      exact .gives trivial

theorem ends_readText (leaf : ColumnLeaf) (given : String) :
    Ends Anything ((Leaf.text leaf).nameDefect? given) (TextTest.read given) := by
  refine ends_of_found (Leaf.isSome_textTest leaf given) (fun test hfound => ?_) fun hfound => ?_
  · rw [TextTest.read, hfound]
  · rw [TextTest.read, hfound, Leaf.subject, Leaf.shown]

theorem ends_readComparison (leaf : ColumnLeaf) (given : String) :
    Ends Anything ((Leaf.number leaf).nameDefect? given) (Comparison.read given) := by
  refine ends_of_found (Leaf.isSome_comparison leaf given) (fun test hfound => ?_) fun hfound => ?_
  · rw [Comparison.read, hfound]
  · rw [Comparison.read, hfound]
    rfl

/-- An operation that may not be left out is looked for and then read. -/
theorem ends_checkOperation {α : Type} (leaf : Leaf) {read : String → Except QueryFault α}
    (hsubject : leaf.subject ≠ .boolean)
    (hread : ∀ given, Ends Anything (leaf.nameDefect? given) (read given)) :
    Ends Anything leaf.operationDefect?
      (checkOperation leaf.subject leaf.operation? >>= read) := by
  rw [Leaf.operationDefect?]
  cases leaf.operation? with
  | none =>
      rw [if_neg hsubject]
      exact .fails _
  | some given => exact hread given

theorem checkFlagOperation_some (leaf : ColumnLeaf) (given : String) :
    checkFlagOperation (some given) = if (Leaf.flag leaf).knowsOperation given then .ok ()
      else .error (.unknownOperation .boolean (Text.trim given)) := by
  have hknows : (Leaf.flag leaf).knowsOperation given =
      ["is", "=="].contains (Text.trim given) := rfl
  rw [checkFlagOperation, Option.map_some, hknows]
  generalize Text.trim given = name
  split <;> simp_all

theorem ends_checkFlagName (leaf : ColumnLeaf) (given : String) :
    Ends Anything ((Leaf.flag leaf).nameDefect? given) (checkFlagOperation (some given)) := by
  rw [checkFlagOperation_some leaf, Leaf.nameDefect?]
  cases (Leaf.flag leaf).knowsOperation given with
  | true => exact .gives trivial
  | false => exact .fails _

theorem ends_checkFlagOperation (leaf : ColumnLeaf) :
    Ends Anything (Leaf.flag leaf).operationDefect? (checkFlagOperation leaf.operation) := by
  rw [Leaf.operationDefect?, Leaf.operation?]
  cases leaf.operation with
  | none => exact .gives trivial
  | some given => exact ends_checkFlagName leaf given

/-- A value that may not be left out is looked for and then read. -/
theorem ends_checkValue {α : Type} (leaf : Leaf) {read : Literal → Except QueryFault α}
    (hsubject : leaf.subject ≠ .boolean)
    (hread : ∀ literal, Ends Anything
      (if leaf.subject = .number ∧ literal.toNumber? = none then
        some (.invalidValue .number literal.toText) else none) (read literal)) :
    Ends Anything leaf.valueDefect? (checkValue leaf.subject leaf.value? >>= read) := by
  rw [Leaf.valueDefect?]
  cases leaf.value? with
  | none =>
      rw [if_neg hsubject]
      exact .fails _
  | some literal => exact hread literal

variable (settings : Settings)

theorem ends_textCondition (leaf : ColumnLeaf) :
    Ends Anything ((Leaf.text leaf).columnDefect?.or
      ((Leaf.text leaf).operationDefect?.or (Leaf.text leaf).valueDefect?))
        (textCondition settings leaf) := by
  rw [textCondition]
  refine (ends_checkColumn settings .text leaf).bind fun column _ => ?_
  rw [← bind_assoc]
  refine (ends_checkOperation (.text leaf) (by simp) (ends_readText leaf)).bind
    fun test _ => ?_
  refine ends_checkValue (.text leaf) (by simp) fun literal => ?_
  rw [if_neg (by simp)]
  exact .gives trivial

theorem ends_numberCondition (leaf : ColumnLeaf) :
    Ends Anything ((Leaf.number leaf).columnDefect?.or
      ((Leaf.number leaf).operationDefect?.or (Leaf.number leaf).valueDefect?))
        (numberCondition settings leaf) := by
  rw [numberCondition]
  refine (ends_checkColumn settings .number leaf).bind fun column _ => ?_
  rw [← bind_assoc]
  refine (ends_checkOperation (.number leaf) (by simp) (ends_readComparison leaf)).bind
    fun comparison _ => ?_
  refine ends_checkValue (.number leaf) (by simp) fun literal => ?_
  cases literal.toNumber? with
  | none =>
      rw [if_pos ⟨rfl, rfl⟩]
      exact .fails _
  | some value =>
      rw [if_neg (by simp)]
      exact .gives trivial

theorem ends_flagCondition (leaf : ColumnLeaf) :
    Ends Anything ((Leaf.flag leaf).columnDefect?.or
      ((Leaf.flag leaf).operationDefect?.or (Leaf.flag leaf).valueDefect?))
        (flagCondition settings leaf) := by
  rw [flagCondition, Leaf.valueDefect?_flag]
  refine (ends_checkColumn settings .boolean leaf).bind fun column _ => ?_
  exact (ends_checkFlagOperation leaf).bind fun _ _ => .gives trivial

theorem ends_labelCondition (kind : LabelKind) (leaf : LabelLeaf) :
    Ends Anything ((Leaf.label kind leaf).columnDefect?.or
      ((Leaf.label kind leaf).operationDefect?.or (Leaf.label kind leaf).valueDefect?))
        (labelCondition kind leaf) := by
  rw [Leaf.columnDefect?, Option.none_or, Leaf.operationDefect?, labelCondition]
  have hvalue (test : LabelTest) : Ends Anything (Leaf.label kind leaf).valueDefect?
      (checkValue (.label kind) leaf.value >>= fun literal =>
        (pure (.label kind ⟨test, literal.toText, leaf.inverted⟩) :
          Except QueryFault Condition)) := by
    refine ends_checkValue (.label kind leaf) (by simp) fun literal => ?_
    rw [if_neg (by simp)]
    exact .gives trivial
  dsimp only [Leaf.operation?]
  cases leaf.operation with
  | none => exact .fails _
  | some given =>
      simp only [Leaf.nameDefect?, ← Leaf.isSome_labelTest, checkOperation, bind, Except.bind]
      cases LabelTest.ofText? (Text.trim given) with
      | none => exact .fails _
      | some test => exact hvalue test

/-- A leaf fails with its first defect in the order column, operation, value. -/
theorem ends_leafCondition (leaf : Leaf) :
    Ends Anything leaf.defects.head? (leafCondition settings leaf) := by
  rw [leaf.head?_defects]
  cases leaf with
  | text leaf => exact ends_textCondition settings leaf
  | number leaf => exact ends_numberCondition settings leaf
  | flag leaf => exact ends_flagCondition settings leaf
  | label kind leaf => exact ends_labelCondition kind leaf

end Query

end FacetFilter
