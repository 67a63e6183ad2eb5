import FacetFilter.Proofs.Membership
import FacetFilter.Proofs.Query.LeafDefects
import FacetFilter.Proofs.Query.Substitution

/-!
# Names that stand for columns

A name is looked up among the aliases once, when its leaf is checked, and nothing
after that knows of aliases.  Compiling a query with aliases is therefore compiling
the query in which every name gave way to its column, without any alias.
-/

namespace FacetFilter

namespace Settings

def withoutAliases (settings : Settings) : Settings := { settings with aliases := .empty }

/-- Lets names stand for columns, one pair after the other. -/
def addAliases (settings : Settings) (pairs : List (String × String)) : Settings :=
  pairs.foldl (fun settings pair => settings.addAlias pair.1 pair.2) settings

/-- The column that the last pair with a name gives for it; a name without a pair is a column. -/
def lastTarget (pairs : List (String × String)) (name : String) : String :=
  ((pairs.reverse.find? fun pair => pair.1 == name).map Prod.snd).getD name

/-- Adding aliases leaves every other setting alone. -/
theorem addAliases_eq (settings : Settings) (pairs : List (String × String)) :
    settings.addAliases pairs =
      { settings with aliases := settings.aliases.insertMany pairs } := by
  induction pairs generalizing settings with
  | nil => rfl
  | cons pair pairs ih => exact ih (settings.addAlias pair.1 pair.2)

theorem resolve_withoutAliases (settings : Settings) (name : String) :
    settings.withoutAliases.resolve name = name := rfl

theorem resolve_addAliases (settings : Settings) (pairs : List (String × String))
    (name : String) :
    (settings.withoutAliases.addAliases pairs).resolve name = lastTarget pairs name := by
  rw [addAliases_eq, resolve, lastTarget]
  exact congrArg (fun found => (found.map Prod.snd).getD name) (Ascending.find?_ofList pairs name)

theorem lastTarget_ne_empty {pairs : List (String × String)} {name : String}
    (htargets : ∀ pair ∈ pairs, pair.2 ≠ "") (hname : name ≠ "") : lastTarget pairs name ≠ "" := by
  rw [lastTarget]
  cases hfind : pairs.reverse.find? fun pair => pair.1 == name with
  | none => exact hname
  | some pair => exact htargets pair (List.mem_reverse.mp (List.mem_of_find?_eq_some hfind))

end Settings

/-! ## Names in a query -/

/-- The leaf with another name for its column; a name that is empty or left out stays so. -/
def ColumnLeaf.renamed (rename : String → String) (leaf : ColumnLeaf) : ColumnLeaf :=
  { leaf with columnName := leaf.columnName.map fun name => if name = "" then name else rename name }

/-- A label is in no column, so its leaf keeps everything. -/
def Leaf.renamed (rename : String → String) : Leaf → Leaf
  | .text leaf => .text (leaf.renamed rename)
  | .number leaf => .number (leaf.renamed rename)
  | .flag leaf => .flag (leaf.renamed rename)
  | .label kind leaf => .label kind leaf

namespace Query

/-- The query with another name in every leaf that has one. -/
def renamed (rename : String → String) (query : Query) : Query :=
  ⟨Node.mapAllLeaves (Leaf.renamed rename) query.nodes, query.inverted⟩

section Renamed

variable {settings other : Settings} {rename : String → String}
  (hresolve : ∀ name, settings.resolve name = rename name)
  (hother : ∀ name, other.resolve name = name) (hrename : ∀ name, name ≠ "" → rename name ≠ "")

include hresolve hother hrename

/-- A name that was followed beforehand is read as it is. -/
theorem checkColumn_renamed (subject : Subject) (leaf : ColumnLeaf) :
    checkColumn other subject (leaf.renamed rename) = checkColumn settings subject leaf := by
  cases hname : leaf.columnName with
  | none =>
      have hrenamed : (leaf.renamed rename).columnName = none := by
        rw [ColumnLeaf.renamed, hname, Option.map_none]
      rw [checkColumn, checkColumn, hname, hrenamed]
  | some name =>
      -- An empty name is refused on both sides before any alias could be looked up.
      by_cases hempty : name = ""
      · have hrenamed : (leaf.renamed rename).columnName = some "" := by
          rw [ColumnLeaf.renamed, hname, Option.map_some, if_pos hempty, hempty]
        rw [checkColumn, checkColumn, hname, hrenamed, hempty]
        rfl
      · have hrenamed : (leaf.renamed rename).columnName = some (rename name) := by
          rw [ColumnLeaf.renamed, hname, Option.map_some, if_neg hempty]
        rw [checkColumn_of_filled other subject hrenamed (hrename name hempty),
          checkColumn_of_filled settings subject hname hempty, hother, hresolve]

theorem describes_renamed : Describes settings other (Leaf.renamed rename) id := by
  have hcheck := checkColumn_renamed hresolve hother hrename
  intro leaf
  rw [id_map]
  cases leaf with
  | text leaf =>
      simp only [Leaf.renamed, leafCondition, textCondition, hcheck]
      rfl
  | number leaf =>
      simp only [Leaf.renamed, leafCondition, numberCondition, hcheck]
      rfl
  | flag leaf =>
      simp only [Leaf.renamed, leafCondition, flagCondition, hcheck]
      rfl
  | label kind leaf => rfl

theorem symbols_renamed (query : Query) :
    symbols other (query.renamed rename).nodes = symbols settings query.nodes := by
  have hsymbols := symbols_mapAllLeaves (describes_renamed hresolve hother hrename) query.nodes
  rwa [Symbol.substitute_id, List.map_id_fun, id_map] at hsymbols

end Renamed

/-- Behind the expression, compiling looks at no alias. -/
theorem compile_congr {settings other : Settings} {first second : Query}
    (hsymbols : symbols other second.nodes = symbols settings first.nodes)
    (hexpansion : other.expansion = settings.expansion)
    (hlimit : other.maxInstructions = settings.maxInstructions)
    (hleaves : second.leafCount = first.leafCount)
    (hlength : second.nodes.length = first.nodes.length)
    (hinverted : second.inverted = first.inverted) :
    second.compile other = first.compile settings := by
  have hemit : emit other second.nodes = emit settings first.nodes := by
    rw [emit, emit, hsymbols, hlength]
  have hexpand : ∀ program : Program, program.expand other = program.expand settings := by
    intro program
    have hreading : Program.expansionReading other = Program.expansionReading settings := by
      simp only [Program.expansionReading, hexpansion, hlimit]
    rw [Program.expand, Program.expand, hreading]
  simp only [compile, hleaves, hinverted, hemit, hexpand]

/-- Compiling with aliases is compiling without them, under the same other settings, the query in
which each name has given way to its column.  That happens once: a column that is itself the name
of an alias is not followed on, and of the columns given for one name the last counts. -/
theorem compile_addAliases (settings : Settings) (pairs : List (String × String)) (query : Query)
    (htargets : ∀ pair ∈ pairs, pair.2 ≠ "") :
    query.compile (settings.withoutAliases.addAliases pairs) =
      (query.renamed (Settings.lastTarget pairs)).compile settings.withoutAliases := by
  have hsymbols := symbols_renamed (settings.resolve_addAliases pairs)
    settings.resolve_withoutAliases (fun _ => Settings.lastTarget_ne_empty htargets) query
  refine (compile_congr hsymbols ?_ ?_ ?_ ?_ rfl).symm
  · rw [Settings.addAliases_eq]
  · rw [Settings.addAliases_eq]
  · exact Node.leafCounts_mapAllLeaves _ query.nodes
  · exact Node.length_mapAllLeaves _ query.nodes

/-- Names that are exchanged, and one that is given two columns. -/
def exchangedNames : List (String × String) :=
  [("name", "title"), ("title", "name"), ("score", "points"), ("score", "rating")]

/-- A flag for each name, joined to a tag that is called like one of them. -/
def flagPerName : Query where
  nodes := [.leaf none (.flag ⟨some "name", none, none, false, false, false⟩),
    .group (some .xor) true
      [.leaf none (.flag ⟨some "title", some "is", none, true, false, false⟩),
        .leaf (some .or) (.label .tag ⟨some "has", some (.text "name"), false⟩)],
    .leaf (some .and) (.flag ⟨some "score", none, none, false, true, false⟩)]
  inverted := true

/-- Each name is followed by one step of the circle and no further. -/
theorem compile_addAliases_flagPerName :
    (∀ pair ∈ exchangedNames, pair.2 ≠ "") ∧
      flagPerName.compile (Settings.standard.withoutAliases.addAliases exchangedNames) =
        (flagPerName.renamed (Settings.lastTarget exchangedNames)).compile
          Settings.standard.withoutAliases ∧
      Node.mapAllLeaves (Leaf.renamed (Settings.lastTarget exchangedNames)) flagPerName.nodes =
        [.leaf none (.flag ⟨some "title", none, none, false, false, false⟩),
          .group (some .xor) true
            [.leaf none (.flag ⟨some "name", some "is", none, true, false, false⟩),
              .leaf (some .or) (.label .tag ⟨some "has", some (.text "name"), false⟩)],
          .leaf (some .and) (.flag ⟨some "rating", none, none, false, true, false⟩)] := by
  have htargets : ∀ pair ∈ exchangedNames, pair.2 ≠ "" := by decide
  exact ⟨htargets, compile_addAliases .standard exchangedNames flagPerName htargets, rfl⟩

end Query

end FacetFilter
