import EnvTags.Proofs.Analysis.Forest
import EnvTags.Proofs.Tag.Descriptor
import Mathlib.Tactic.Tauto

/-!
# The lines of the output

The variables of an analysis are printed one after the other, each with a line
feed at its end. Read line by line, the output gives the lines of the first
variable, then those of the second one, and so on. It has exactly one line for
each variable unless a name, a prefix or a default value has a line feed of its
own. That happens only if a tag is written with an escape for a line feed.
-/

namespace EnvTags

namespace Variable

theorem toList_render_cons (entry : Variable) (entries : List Variable) :
    (render (entry :: entries)).toList =
      entry.line.toList ++ '\n' :: (render entries).toList := by
  simp [render, String.toList_join]

/-- The lines of the output are those of the variables, in order, and an empty
last one. -/
theorem parts_render (entries : List Variable) :
    Text.parts '\n' (render entries) =
      (entries.flatMap fun entry => Text.parts '\n' entry.line) ++ [""] := by
  induction entries with
  | nil => rfl
  | cons entry entries inductionHypothesis =>
      rw [Text.parts_eq_append (toList_render_cons entry entries),
        inductionHypothesis, List.flatMap_cons, List.append_assoc]

/-- The output has one line for each variable exactly if no variable has a line
feed in its own line. -/
theorem parts_render_eq_map_line_iff (entries : List Variable) :
    Text.parts '\n' (render entries) = entries.map line ++ [""] ↔
      ∀ entry ∈ entries, '\n' ∉ entry.line.toList := by
  rw [parts_render, List.append_cancel_right_eq]
  induction entries with
  | nil => simp
  | cons entry entries inductionHypothesis =>
      rw [List.flatMap_cons, List.map_cons, List.forall_mem_cons,
        ← inductionHypothesis]
      constructor
      · intro same
        obtain ⟨first, others, split⟩ :=
          List.exists_cons_of_ne_nil (Text.parts_ne_nil '\n' entry.line)
        rw [split, List.cons_append, List.cons.injEq] at same
        -- The first part has no line feed, so if it is the line there is only one.
        have unmarked : '\n' ∉ entry.line.toList := by
          apply Text.notMem_of_mem_parts
          rw [← same.1, split]
          exact List.mem_cons_self
        have single := Text.parts_eq_singleton_iff.mpr unmarked
        rw [split, List.cons.injEq] at single
        exact ⟨unmarked, by simpa [single.2] using same.2⟩
      · rintro ⟨unmarked, rest⟩
        rw [Text.parts_eq_singleton_iff.mpr unmarked, rest, List.singleton_append]

end Variable

namespace Expansion.Leaf

/-- A line feed occurs in the name or in the default value of a leaf, or in a
prefix on the way to it. -/
def HasLineFeed (leaf : Leaf) : Prop :=
  '\n' ∈ leaf.descriptor.variableName.toList ∨
    '\n' ∈ leaf.descriptor.defaultValue.toList ∨
    ∃ container ∈ leaf.containers, '\n' ∈ container.2.containerPrefix.toList

/-- The fields whose tags a leaf is made of. -/
def fields (leaf : Leaf) : List Field :=
  leaf.field :: leaf.containers.map Prod.fst

theorem mem_containerPrefix_iff {leaf : Leaf} {c : Char} :
    c ∈ leaf.containerPrefix.toList ↔
      ∃ container ∈ leaf.containers, c ∈ container.2.containerPrefix.toList := by
  simp only [containerPrefix, String.toList_join, List.mem_flatMap,
    List.mem_map]
  constructor
  · rintro ⟨_, ⟨container, present, rfl⟩, inside⟩
    exact ⟨container, present, inside⟩
  · rintro ⟨container, present, inside⟩
    exact ⟨_, ⟨container, present, rfl⟩, inside⟩

/-- The line of a leaf has the line feeds of its parts. -/
theorem mem_line_entry_iff (leaf : Leaf) :
    '\n' ∈ (leaf.entry "").line.toList ↔ leaf.HasLineFeed := by
  have notEquals : '\n' ∉ "=".toList := by decide
  rw [HasLineFeed, ← mem_containerPrefix_iff]
  simp only [entry, Variable.line, String.toList_append, List.mem_append,
    String.empty_append, notEquals, or_false]
  tauto

end Expansion.Leaf

namespace Analysis

open Expansion (Leaf)

/-- A leaf has a line feed only if one of the tags that it is made of is written
with an escape for one. -/
theorem Forest.exists_escapesLineFeed
    {system : FileSystem}
    {request : Request}
    (forest : Forest system request)
    {leaf : Leaf}
    (present : leaf ∈ forest.leaves)
    (hasLineFeed : leaf.HasLineFeed) :
    ∃ field ∈ leaf.fields,
      Tag.EscapesLineFeed request.config.scheme.key field.tag := by
  obtain ⟨isLeaf, areContainers⟩ := forest.described present
  rcases hasLineFeed with inName | inDefault | ⟨container, inside, inPrefix⟩
  · exact ⟨leaf.field, List.mem_cons_self,
      Tag.escapesLineFeed_of_mentions isLeaf.1 (.inl inName)⟩
  · exact ⟨leaf.field, List.mem_cons_self,
      Tag.escapesLineFeed_of_mentions isLeaf.1 (.inr (.inr inDefault))⟩
  · exact ⟨container.1, List.mem_cons_of_mem _ (List.mem_map_of_mem inside),
      Tag.escapesLineFeed_of_mentions (areContainers container inside).1
        (.inr (.inl inPrefix))⟩

/-- The output of an analysis has the lines of its variables, in order. It has
exactly one line for each variable, which is the name, an equals sign and the
default value, if and only if no leaf of the trees has a line feed in its name, in
its default value or in a prefix on its way. A leaf has one only if one of the
tags it is made of is written with an escape for a line feed. -/
theorem parts_render_entries_iff
    {system : FileSystem}
    {request : Request}
    {analysis : Analysis}
    (succeeded : run system request = .ok analysis) :
    ∃ forest : Forest system request,
      analysis.entries = forest.leaves.map (Leaf.entry "") ∧
        Text.parts '\n' (Variable.render analysis.entries) =
          (analysis.entries.flatMap fun entry => Text.parts '\n' entry.line) ++
            [""] ∧
        (Text.parts '\n' (Variable.render analysis.entries) =
            analysis.entries.map Variable.line ++ [""] ↔
          ∀ leaf ∈ forest.leaves, ¬leaf.HasLineFeed) ∧
        ∀ leaf ∈ forest.leaves, leaf.HasLineFeed →
          ∃ field ∈ leaf.fields,
            Tag.EscapesLineFeed request.config.scheme.key field.tag := by
  obtain ⟨forest, areLeaves⟩ := exists_forest succeeded
  refine ⟨forest, areLeaves, Variable.parts_render _, ?_, ?_⟩
  · rw [Variable.parts_render_eq_map_line_iff, areLeaves, List.forall_mem_map]
    simp only [Leaf.mem_line_entry_iff]
  · intro leaf present hasLineFeed
    exact forest.exists_escapesLineFeed present hasLineFeed

/-! ## A default value of two lines -/

/-- A source file with a default value that has an escape for a line feed. -/
def bannerSource : String :=
  "package app\n\ntype Config struct \x7b\n" ++
    "\tBanner string `env:\"BANNER,default=one\\nTWO=2\"`\n" ++
    "\tPort int `env:\"PORT,default=80\"`\n\x7d\n"

/-- A project with the file. -/
def bannerProject : FileSystem where
  root := .directory [("proj", .directory [
    ("go.mod", .file (.text "module example.com/app\n")),
    ("config.go", .file (.text bannerSource))])]

/-- The analysis of the project. -/
def bannerAnalysis : Analysis where
  entries := [⟨"example.com/app", "BANNER", "one\nTWO=2"⟩,
    ⟨"example.com/app", "PORT", "80"⟩]
  diagnostics := []
  modulePath := "example.com/app"
  filesScanned := 1
  recordCount := 1
  rootCount := 1
  directoriesScanned := 0

theorem run_bannerProject :
    run bannerProject ⟨⟨"proj", []⟩, {}, none⟩ = .ok bannerAnalysis := by
  decide +kernel

/-- One of the tags of the project is written with an escape for a line feed. -/
theorem exists_escapesLineFeed_bannerProject :
    run bannerProject ⟨⟨"proj", []⟩, {}, none⟩ = .ok bannerAnalysis ∧
      ∃ forest : Forest bannerProject ⟨⟨"proj", []⟩, {}, none⟩,
        ∃ leaf ∈ forest.leaves, ∃ field ∈ leaf.fields,
          Tag.EscapesLineFeed "env" field.tag := by
  refine ⟨run_bannerProject, ?_⟩
  obtain ⟨forest, -, -, oneLineEach, escapes⟩ :=
    parts_render_entries_iff run_bannerProject
  have moreLines : Text.parts '\n' (Variable.render bannerAnalysis.entries) ≠
      bannerAnalysis.entries.map Variable.line ++ [""] := by
    decide +kernel
  have hasLineFeed := mt oneLineEach.mpr moreLines
  push Not at hasLineFeed
  obtain ⟨leaf, present, leafHasLineFeed⟩ := hasLineFeed
  exact ⟨forest, leaf, present, escapes leaf present leafHasLineFeed⟩

/-- The output does not always have one line for each variable: two variables give
three lines, and the second line is that of a variable which is none. -/
theorem parts_render_bannerProject :
    run bannerProject ⟨⟨"proj", []⟩, {}, none⟩ = .ok bannerAnalysis ∧
      bannerAnalysis.entries.map Variable.line = ["BANNER=one\nTWO=2", "PORT=80"] ∧
      Text.parts '\n' (Variable.render bannerAnalysis.entries) =
        ["BANNER=one", "TWO=2", "PORT=80", ""] := by
  refine ⟨run_bannerProject, ?_⟩
  decide +kernel

end Analysis
end EnvTags
