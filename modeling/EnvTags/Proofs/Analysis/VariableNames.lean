import EnvTags.Proofs.Analysis.Forest
import EnvTags.Proofs.Tag.Descriptor

/-!
# The names of variables

Whether a field is a variable depends on its type and on the flags in its tag, and
not on the name that the tag gives. A tag whose value is empty or starts with a
comma gives no name. So every variable of an analysis has a name of its own exactly
if no such tag is on a leaf field of a record that is expanded.
-/

namespace EnvTags

namespace Tag

/-- The value that a tag has under a key gives no name: it is empty or starts with
a comma. -/
def IsNameless (key tag : String) : Prop :=
  ∃ value, lookup tag key = some value ∧
    (value = "" ∨ value.toList.head? = some ',')

/-- A description has no name exactly if the tag gives none. -/
theorem variableName_eq_empty_iff_isNameless
    {scheme : Scheme}
    {tag : String}
    {descriptor : Descriptor}
    (described : scheme.describe tag = some descriptor) :
    descriptor.variableName = "" ↔ IsNameless scheme.key tag := by
  obtain ⟨value, found, rfl⟩ := describe_eq_some_iff.mp described
  rw [Descriptor.variableName_eq_empty_iff, IsNameless]
  constructor
  · intro noName
    exact ⟨value, found, noName⟩
  · rintro ⟨other, isOther, noName⟩
    obtain rfl := Option.some.inj (found.symm.trans isOther)
    exact noName

end Tag

namespace Analysis

open Expansion (Leaf LeafField)

/-- The variables of an analysis are the leaf fields of the records that are
expanded, with or without a name: those whose tag describes them, and whose type
is builtin or whose tag does not make them containers. Every variable is from a
field with a name if and only if no such field has a tag that gives no name. -/
theorem variableName_ne_empty_iff
    {system : FileSystem}
    {request : Request}
    {analysis : Analysis}
    (succeeded : run system request = .ok analysis) :
    ∃ forest : Forest system request,
      analysis.entries = forest.leaves.map (Leaf.entry "") ∧
        (∀ record field descriptor,
          (∃ leaf ∈ forest.leaves, leaf.IsOf record field descriptor) ↔
            record ∈ forest.nodes ∧ field ∈ record.fields ∧
              LeafField forest.scanned.setting field descriptor) ∧
        ((∀ leaf ∈ forest.leaves, leaf.descriptor.variableName ≠ "") ↔
          ∀ record ∈ forest.nodes, ∀ field ∈ record.fields, ∀ descriptor,
            LeafField forest.scanned.setting field descriptor →
              ¬Tag.IsNameless request.config.scheme.key field.tag) := by
  obtain ⟨forest, areLeaves⟩ := exists_forest succeeded
  refine ⟨forest, areLeaves, forest.exists_leaf_iff, ?_, ?_⟩
  · intro named record isNode field inFields descriptor isLeaf nameless
    obtain ⟨leaf, present, -, -, rfl⟩ :=
      (forest.exists_leaf_iff record field descriptor).mpr
        ⟨isNode, inFields, isLeaf⟩
    apply named leaf present
    exact (Tag.variableName_eq_empty_iff_isNameless isLeaf.1).mpr nameless
  · intro named leaf present noName
    obtain ⟨isNode, inFields, isLeaf⟩ :=
      (forest.exists_leaf_iff leaf.record leaf.field leaf.descriptor).mp
        ⟨leaf, present, rfl, rfl, rfl⟩
    apply named leaf.record isNode leaf.field inFields leaf.descriptor isLeaf
    exact (Tag.variableName_eq_empty_iff_isNameless isLeaf.1).mp noName

/-! ## A project without names -/

/-- A source file whose tags give no names: on fields of a builtin type, with and
without the flag of a container, of a composite type, of another type that is no
container, and in a nested record. -/
def namelessSource : String :=
  "package app\n\ntype Config struct \x7b\n" ++
    "\tPort int `env:\",default=8080\"`\n" ++
    "\tHost string `env:\",prefix=HOST_\"`\n" ++
    "\tTags []string `env:\"\"`\n" ++
    "\tLevel Level `env:\",default=info\"`\n" ++
    "\tStore Store `env:\",prefix=DB_\"`\n\x7d\n\n" ++
    "type Store struct \x7b\n\tUser string `env:\",default=root\"`\n\x7d\n"

/-- A project with the file. -/
def namelessProject : FileSystem where
  root := .directory [("proj", .directory [
    ("go.mod", .file (.text "module example.com/app\n")),
    ("config.go", .file (.text namelessSource))])]

/-- A variable of the project. -/
def namelessVariable (name value : String) : Variable :=
  ⟨"example.com/app", name, value⟩

/-- The analysis of the project. -/
def namelessAnalysis : Analysis where
  entries := [namelessVariable "" "8080", namelessVariable "" "",
    namelessVariable "" "", namelessVariable "" "info",
    namelessVariable "DB_" "root"]
  diagnostics := []
  modulePath := "example.com/app"
  filesScanned := 1
  recordCount := 2
  rootCount := 1
  directoriesScanned := 0

/-- The names that the tags of a project give, for the fields that they describe. -/
def describedNames (files : List SourceFile) : List (Option String) :=
  ((files.flatMap SourceFile.records).flatMap Record.fields).map fun field =>
    (Tag.Scheme.describe {} field.tag).map Tag.Descriptor.variableName

-- One evaluation gives both facts, so that the source is parsed only once.
theorem run_and_describedNames_namelessProject :
    run namelessProject ⟨⟨"proj", []⟩, {}, none⟩ = .ok namelessAnalysis ∧
      (Project.scan namelessProject ⟨"proj", []⟩ "example.com/app"
          ⟨"vendor", []⟩).map describedNames =
        .ok [some "", some "", some "", some "", some "", some ""] := by
  decide +kernel

/-- A record that is expanded has a leaf field whose tag gives no name. -/
theorem exists_isNameless_namelessProject :
    run namelessProject ⟨⟨"proj", []⟩, {}, none⟩ = .ok namelessAnalysis ∧
      ∃ forest : Forest namelessProject ⟨⟨"proj", []⟩, {}, none⟩,
        ∃ record ∈ forest.nodes, ∃ field ∈ record.fields, ∃ descriptor,
          LeafField forest.scanned.setting field descriptor ∧
            Tag.IsNameless "env" field.tag := by
  have succeeded := run_and_describedNames_namelessProject.1
  refine ⟨succeeded, ?_⟩
  obtain ⟨forest, areLeaves, -, allNamed⟩ := variableName_ne_empty_iff succeeded
  have unnamed : namelessVariable "" "8080" ∈
      forest.leaves.map (Leaf.entry "") := by
    rw [← areLeaves]
    exact List.mem_cons_self
  obtain ⟨leaf, present, isVariable⟩ := List.mem_map.mp unnamed
  have noName : leaf.descriptor.variableName = "" := by
    have sameName := congrArg Variable.name isVariable
    rw [Leaf.entry, namelessVariable, String.append_eq_empty_iff] at sameName
    exact sameName.2
  by_contra named
  push Not at named
  exact allNamed.mpr (named forest) leaf present noName

/-- A field whose tag gives no name can be a variable: no tag of the project gives
a name, and the analysis has five variables. -/
theorem entries_namelessProject :
    run namelessProject ⟨⟨"proj", []⟩, {}, none⟩ = .ok namelessAnalysis ∧
      namelessAnalysis.entries.map Variable.line =
        ["=8080", "=", "=", "=info", "DB_=root"] ∧
      (Project.scan namelessProject ⟨"proj", []⟩ "example.com/app"
          ⟨"vendor", []⟩).map describedNames =
        .ok [some "", some "", some "", some "", some "", some ""] := by
  obtain ⟨succeeded, noNames⟩ := run_and_describedNames_namelessProject
  exact ⟨succeeded, by decide, noNames⟩

end Analysis
end EnvTags
