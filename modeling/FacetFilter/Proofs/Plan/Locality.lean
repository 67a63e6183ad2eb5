import FacetFilter.Proofs.Condition.Locality
import FacetFilter.Proofs.Plan.Execution

/-!
# Plans look at one record at a time

Whether a plan selects an entity does not depend on the other entities, on other
fields or on other columns.  What it takes from the rest of the catalog is which
of the labels that it asks for are carried at all.
-/

namespace FacetFilter

open Journaled

/-- Two catalogs agree on an entity where they agree on it for each condition of a formula. -/
theorem Formula.mem_selected_congr {formula : Formula} {first second : Catalog} {id : EntityId}
    (hfirst : id ∈ first.ids) (hsecond : id ∈ second.ids)
    (hagree : ∀ condition, .leaf condition ∈ formula.program →
      (id ∈ condition.selected first ↔ id ∈ condition.selected second)) :
    id ∈ formula.selected first ↔ id ∈ formula.selected second := by
  induction formula with
  | leaf condition =>
      apply hagree
      exact List.mem_singleton_self _
  | negation operand ih =>
      have hoperand := ih fun condition hmem => hagree condition (by simp [hmem])
      simp [selected, hfirst, hsecond, hoperand]
  | join junction left right ihLeft ihRight =>
      have hleft := ihLeft fun condition hmem => hagree condition (by simp [hmem])
      have hright := ihRight fun condition hmem => hagree condition (by simp [hmem])
      cases junction <;> simp [selected, Junction.onSets, hleft, hright]

theorem Formula.mem_program_negatedIf {inverted : Bool} {formula : Formula}
    {condition : Condition} :
    .leaf condition ∈ (formula.negatedIf inverted).program ↔ .leaf condition ∈ formula.program := by
  cases inverted <;> simp [negatedIf]

namespace Plan

variable {plan : Plan}

/-- The labels that the conditions of a plan ask for, each with its kind. -/
def labels (plan : Plan) : List (LabelKind × String) :=
  plan.program.filterMap fun instruction => instruction.condition?.bind Condition.label?

theorem mem_columns_of_mem_program {condition : Condition} {column : String}
    (hmem : .leaf condition ∈ plan.program) (hcolumn : condition.column? = some column) :
    column ∈ plan.columns := by
  apply mem_columns_iff.mpr
  exact List.mem_filterMap.mpr ⟨.leaf condition, hmem, hcolumn⟩

theorem mem_labels_of_mem_program {condition : Condition} {kind : LabelKind} {label : String}
    (hmem : .leaf condition ∈ plan.program) (hlabel : condition.label? = some (kind, label)) :
    (kind, label) ∈ plan.labels :=
  List.mem_filterMap.mpr ⟨.leaf condition, hmem, hlabel⟩

/-- A plan that succeeds has found all its columns. -/
theorem missingColumn?_of_execute {catalog : Catalog} {members : IdSet}
    (hexecute : (plan.execute catalog).outcome.1 = .ok members) :
    plan.missingColumn? catalog = none := by
  have hvalidate := plan.validate_yields catalog
  rw [columnFault?] at hvalidate
  cases hmissing : plan.missingColumn? catalog with
  | none => rfl
  | some column =>
      rw [hmissing] at hvalidate
      have hfault : Yields (plan.execute catalog) (.error (.name (.unknownColumn column))) :=
        hvalidate.bind_error _
      rw [hfault.outcome] at hexecute
      cases hexecute

theorem hasColumn_of_execute {catalog : Catalog} {members : IdSet}
    (hexecute : (plan.execute catalog).outcome.1 = .ok members) {column : String}
    (hcolumn : column ∈ plan.columns) : catalog.hasColumn column = true := by
  apply missingColumn?_eq_none_iff.mp (missingColumn?_of_execute hexecute)
  exact mem_columns_iff.mp hcolumn

/-- What the plan of a formula selects where it succeeds. -/
theorem eq_selected_of_execute {formula : Formula} {inverted : Bool} {catalog : Catalog}
    {members : IdSet} (hfree : Program.XorFree formula.program)
    (hexecute : ((Plan.mk formula.program inverted).execute catalog).outcome.1 = .ok members) :
    members = (formula.negatedIf inverted).selected catalog := by
  have hmissing := missingColumn?_of_execute hexecute
  rw [(execute_yields formula inverted catalog hfree).outcome, columnFault?, hmissing] at hexecute
  cases hexecute
  rfl

end Plan

namespace Query

/-- A compiled plan selects an entity in both of two catalogs or in neither, where the two
records of the entity read alike: the same values in the columns of the plan, and the same labels
of each kind that it asks for.  The catalogs have to agree on which of its labels are carried. -/
theorem mem_execute_congr (settings : Settings) (query : Query) (plan : Plan)
    (first second : Catalog) (members others : IdSet) (record other : Record)
    (hcompile : (query.compile settings).outcome.1 = .ok plan)
    (hfirst : (plan.execute first).outcome.1 = .ok members)
    (hsecond : (plan.execute second).outcome.1 = .ok others)
    (hrecord : record ∈ first.records) (hother : other ∈ second.records)
    (hid : record.id = other.id)
    (hvalues : ∀ column ∈ plan.columns, record.value column = other.value column)
    (hlabels : ∀ kind label, (kind, label) ∈ plan.labels →
      (record.labels kind).Perm (other.labels kind))
    (hcarried : ∀ kind label, (kind, label) ∈ plan.labels →
      first.hasLabel kind label = second.hasLabel kind label) :
    record.id ∈ members ↔ record.id ∈ others := by
  have hmemFirst : record.id ∈ first.ids := Ascending.mem_keys.mpr ⟨record, hrecord, rfl⟩
  have hmemSecond : record.id ∈ second.ids := Ascending.mem_keys.mpr ⟨other, hother, hid.symm⟩
  -- The conditions of the plan agree on the entity.
  have hagree : ∀ condition, .leaf condition ∈ plan.program →
      (record.id ∈ condition.selected first ↔ record.id ∈ condition.selected second) := by
    intro condition hmem
    have hknown : condition.isKnown first = condition.isKnown second := by
      apply Condition.isKnown_of_agree
      · intro column hcolumn
        have hcolumns := Plan.mem_columns_of_mem_program hmem hcolumn
        rw [Plan.hasColumn_of_execute hfirst hcolumns, Plan.hasColumn_of_execute hsecond hcolumns]
      · intro kind label hlabel
        exact hcarried kind label (Plan.mem_labels_of_mem_program hmem hlabel)
    have haccepts : condition.accepts record = condition.accepts other := by
      apply Condition.accepts_of_agree
      · intro column hcolumn
        exact hvalues column (Plan.mem_columns_of_mem_program hmem hcolumn)
      · intro kind label hlabel
        exact hlabels kind label (Plan.mem_labels_of_mem_program hmem hlabel)
    rw [Condition.mem_selected_iff hrecord, hknown, haccepts, hid,
      Condition.mem_selected_iff hother]
  by_cases hleaves : query.leafCount = 0
  · have heverything := eq_everything_of_compile hleaves hcompile
    subst heverything
    cases hfirst
    cases hsecond
    exact iff_of_true hmemFirst hmemSecond
  · obtain ⟨emitted, formula, -, -, rfl, -⟩ := exists_formula_of_compile hleaves hcompile
    have hfree := formula.xorFree_expanded settings.expansion
    rw [Plan.eq_selected_of_execute hfree hfirst, Plan.eq_selected_of_execute hfree hsecond]
    apply Formula.mem_selected_congr hmemFirst hmemSecond
    intro condition hmem
    exact hagree condition (Formula.mem_program_negatedIf.mp hmem)

/-- Both has a fan and is not tagged `new` alone, or neither. -/
def fanXorAmongTags : Query where
  nodes := [.leaf none (flagLeaf "fan"),
    .leaf (some .xor) (.label .tag ⟨some "has_only", some (.text "new"), true⟩)]
  inverted := true

/-- An entity with a fan and two tags, beside one without either. -/
def fanAmongFew : Catalog :=
  (Catalog.empty.add ⟨7, Ascending.empty.insert ("fan", .bool true), ["new", "old"], ["red"]⟩).add
    ⟨8, .empty, [], []⟩

/-- The same entity with its tags in another order, a price and no color, beside another one. -/
def fanAmongPrices : Catalog :=
  (Catalog.empty.add ⟨7, (Ascending.empty.insert ("fan", .bool true)).insert
    ("price", .text "low"), ["old", "new"], []⟩).add
    ⟨9, Ascending.empty.insert ("fan", .bool false), ["new"], []⟩

theorem mem_execute_congr_fanXorAmongTags :
    ∃ plan members others,
      (fanXorAmongTags.compile ⟨.empty, .flipLeaves, 9⟩).outcome.1 = .ok plan ∧
        (plan.execute fanAmongFew).outcome.1 = .ok members ∧
          (plan.execute fanAmongPrices).outcome.1 = .ok others ∧
            ((7 : EntityId) ∈ members ↔ (7 : EntityId) ∈ others) ∧ (7 : EntityId) ∈ members := by
  -- The plan asks for one tag in each of the two copies of the operands.
  have hasked : ∀ kind label,
      (kind, label) ∈ [(LabelKind.tag, "new"), (.tag, "new")] → kind = .tag ∧ label = "new" := by
    intro kind label hmem
    simpa using hmem
  have hcongr := mem_execute_congr ⟨.empty, .flipLeaves, 9⟩ fanXorAmongTags _ fanAmongFew
    fanAmongPrices _ _
    ⟨7, Ascending.empty.insert ("fan", .bool true), ["new", "old"], ["red"]⟩
    ⟨7, (Ascending.empty.insert ("fan", .bool true)).insert ("price", .text "low"),
      ["old", "new"], []⟩
    rfl rfl rfl (by decide) (by decide) rfl (by decide) ?_ ?_
  · exact ⟨_, _, _, rfl, rfl, rfl, hcongr, by decide⟩
  · intro kind label hmem
    obtain ⟨rfl, rfl⟩ := hasked kind label hmem
    exact List.Perm.swap "old" "new" []
  · intro kind label hmem
    obtain ⟨rfl, rfl⟩ := hasked kind label hmem
    decide

end Query

end FacetFilter
