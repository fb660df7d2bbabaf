import EnvTags.Project.Scan
import EnvTags.Proofs.Manifest.Directive

/-!
# The module path of a manifest

The first line with a directive gives the module path, if the path is complete on
that line. The path that is read need not be: behind a word that stands alone, or a
mark that is left open, the reading goes on below, and what it finds there is taken
for the path. The path of a manifest stands in a directive on one line exactly if
that does not happen, or another line happens to declare the same path.
-/

namespace EnvTags
namespace Manifest

/-! ## Complete directives -/

/-- A line declares a path, between marks or bare. -/
def Declares (path : List Char) : List Char → Prop :=
  IsDirective fun text => Encloses path text ∨ StartsBare path text

/-- A line declares a path, between marks or bare. A bare path does not start with a
mark. -/
def DeclaresPlainly (path : List Char) : List Char → Prop :=
  IsDirective fun text =>
    Encloses path text ∨ (StartsBare path text ∧ ∀ c ∈ text.head?, ¬IsMark c)

theorem Encloses.visible
    {path text : List Char}
    (encloses : Encloses path text) :
    ∃ c ∈ text.head?, Text.isBlank c = false := by
  obtain ⟨mark, rest, isMark, -, -, rfl⟩ := encloses
  refine ⟨mark, rfl, ?_⟩
  rcases isMark with rfl | rfl <;> decide

theorem StartsBare.visible
    {path text : List Char}
    (starts : StartsBare path text) :
    ∃ c ∈ text.head?, Text.isBlank c = false := by
  obtain ⟨rest, nonempty, -, plain, -, rfl⟩ := starts
  cases path with
  | nil => exact absurd rfl nonempty
  | cons c path => exact ⟨c, rfl, plain c List.mem_cons_self⟩

theorem ne_nil_of_visible
    {text : List Char}
    (visible : ∃ c ∈ text.head?, Text.isBlank c = false) :
    text ≠ [] := by
  obtain ⟨c, first, -⟩ := visible
  exact List.ne_nil_of_mem (List.mem_of_mem_head? first)

theorem declares_iff
    {path line : List Char} :
    Declares path line ↔ firstWord line = keyword ∧
      (Encloses path (Text.trimStart (afterWord line)) ∨
        StartsBare path (Text.trimStart (afterWord line))) :=
  isDirective_iff fun _ form => form.elim Encloses.visible StartsBare.visible

theorem declaresPlainly_iff
    {path line : List Char} :
    DeclaresPlainly path line ↔ firstWord line = keyword ∧
      (Encloses path (Text.trimStart (afterWord line)) ∨
        (StartsBare path (Text.trimStart (afterWord line)) ∧
          ∀ c ∈ (Text.trimStart (afterWord line)).head?, ¬IsMark c)) :=
  isDirective_iff fun _ form =>
    form.elim Encloses.visible fun starts => starts.1.visible

/-- Where something stands behind the word and no mark is left open, a directive is
read from its line only. -/
theorem pathFrom?_eq_path?
    {line : List Char}
    {after : List (List Char)}
    (isKeyword : firstWord line = keyword)
    (nonempty : Text.trimStart (afterWord line) ≠ [])
    (closed : ¬LeavesOpen (Text.trimStart (afterWord line)) after) :
    pathFrom? line after = path? (Text.trimStart (afterWord line)) := by
  rw [pathFrom?, if_pos isKeyword, Text.trimStart_append, if_neg nonempty,
    path?_append_below nonempty closed]

theorem Encloses.not_leavesOpen
    {path text : List Char}
    (encloses : Encloses path text)
    (after : List (List Char)) :
    ¬LeavesOpen text after := by
  obtain ⟨mark, rest, -, -, -, rfl⟩ := encloses
  rintro ⟨other, body, -, same, notClosed, -⟩
  obtain ⟨rfl, rfl⟩ := List.cons.inj same
  exact notClosed (by simp)

/-- A plain directive is read from its line whatever stands below. -/
theorem pathFrom?_of_declaresPlainly
    {path line : List Char}
    (declares : DeclaresPlainly path line)
    (after : List (List Char)) :
    pathFrom? line after = some path := by
  obtain ⟨isKeyword, encloses | ⟨starts, unmarked⟩⟩ := declaresPlainly_iff.mp declares
  · rw [pathFrom?_eq_path? isKeyword (ne_nil_of_visible encloses.visible)
      (encloses.not_leavesOpen after), path?_eq_some_iff]
    exact .inl encloses
  · rw [pathFrom?_eq_path? isKeyword (ne_nil_of_visible starts.visible), path?_eq_some_iff]
    · refine .inr ⟨?_, starts⟩
      rintro other ⟨mark, rest, isMark, -, -, same⟩
      exact unmarked mark (by rw [same]; rfl) isMark
    · rintro ⟨mark, body, isMark, same, -⟩
      exact unmarked mark (by rw [same]; rfl) isMark

/-- The first line whose first word is the one of a directive gives the module path,
if the path is complete on that line. The lines are the ones that the line ends
leave, each cut at its first comment mark. -/
theorem modulePath?_of_declaresPlainly
    {content : String}
    {before after : List (List Char)}
    {path line : List Char}
    (rows : List.Forall₂ IsLineOf (content.toList.splitOn '\n')
      (before ++ line :: after))
    (first : ∀ other ∈ before, firstWord other ≠ keyword)
    (declares : DeclaresPlainly path line) :
    modulePath? content = some (String.ofList path) := by
  have passesOver : firstDirective? (before ++ line :: after) = some path := by
    clear rows
    induction before with
    | nil =>
        rw [List.nil_append, firstDirective?_cons, pathFrom?_of_declaresPlainly declares,
          Option.some_or]
    | cons other before inductionHypothesis =>
        obtain ⟨notKeyword, others⟩ := List.forall_mem_cons.mp first
        rw [List.cons_append, firstDirective?_cons, pathFrom?, if_neg notKeyword,
          Option.none_or, inductionHypothesis others]
  rw [modulePath?, lines_eq_iff.mpr rows, passesOver, Option.map_some]

/-- A manifest with comments, an empty line and carriage returns. -/
def annotatedManifest : String :=
  "// The module of the program.\r\n\r\n\tmodule \"example.com/app\" // no slash\r\ngo 1.22\r\n"

theorem modulePath?_annotatedManifest :
    List.Forall₂ IsLineOf (annotatedManifest.toList.splitOn '\n')
        ([[], []] ++ "\tmodule \"example.com/app\" ".toList :: ["go 1.22".toList, []]) ∧
      (∀ other ∈ [[], []], firstWord other ≠ keyword) ∧
      DeclaresPlainly "example.com/app".toList
        "\tmodule \"example.com/app\" ".toList ∧
      modulePath? annotatedManifest = some "example.com/app" := by
  have rows : List.Forall₂ IsLineOf (annotatedManifest.toList.splitOn '\n')
      ([[], []] ++ "\tmodule \"example.com/app\" ".toList ::
        ["go 1.22".toList, []]) :=
    lines_eq_iff.mp (by decide)
  have first : ∀ other ∈ [[], []], firstWord other ≠ keyword := by decide
  have declares : DeclaresPlainly "example.com/app".toList
      "\tmodule \"example.com/app\" ".toList :=
    ⟨['\t'], [' '], "\"example.com/app\" ".toList, List.forall_mem_singleton.mpr (by decide),
      List.forall_mem_singleton.mpr (by decide), by decide,
      .inl ⟨'"', [' '], .inl rfl, by decide, by decide, by decide⟩, by decide⟩
  exact ⟨rows, first, declares, modulePath?_of_declaresPlainly rows first declares⟩

/-! ## Directives that run on -/

/-- The path that is read for a directive ends on a line below. -/
inductive RunsOn (line : List Char) (after : List (List Char)) : List Char → Prop
  /-- The word stands alone, and a path is read from the lines below. -/
  | alone
      {path : List Char}
      (isKeyword : firstWord line = keyword)
      (nothing : Text.trimStart (afterWord line) = [])
      (next : StartsWithPath path (Text.trimStart (below after))) :
      RunsOn line after path
  /-- A mark is left open on the line, and closed below. -/
  | unclosed
      {mark : Char}
      {body more rest : List Char}
      (isKeyword : firstWord line = keyword)
      (isMark : IsMark mark)
      (opens : Text.trimStart (afterWord line) = mark :: body)
      (notClosed : mark ∉ body)
      (closed : below after = more ++ mark :: rest)
      (first : mark ∉ more) :
      RunsOn line after (body ++ more)

/-- Of the lines with a directive, the first one that gives a path runs on. -/
inductive FirstRunsOn : List (List Char) → List Char → Prop
  /-- It is the first line. -/
  | here
      {line path : List Char}
      {after : List (List Char)}
      (runsOn : RunsOn line after path) :
      FirstRunsOn (line :: after) path
  /-- The first line gives no path. -/
  | later
      {line path : List Char}
      {after : List (List Char)}
      (undeclared : ∀ own, ¬Declares own line)
      (complete : ∀ own, ¬RunsOn line after own)
      (runsOn : FirstRunsOn after path) :
      FirstRunsOn (line :: after) path

theorem pathFrom?_of_runsOn
    {path line : List Char}
    {after : List (List Char)}
    (runsOn : RunsOn line after path) :
    pathFrom? line after = some path := by
  cases runsOn with
  | alone isKeyword nothing next =>
      rw [pathFrom?, if_pos isKeyword, Text.trimStart_append, if_pos nothing]
      exact path?_eq_some_iff.mpr next
  | unclosed isKeyword isMark opens notClosed closed first =>
      rw [pathFrom?, if_pos isKeyword, Text.trimStart_append, if_neg (by simp [opens]),
        opens]
      exact path?_of_leavesOpen isMark notClosed first closed

/-- A mark that is left open makes a directive run on. -/
theorem exists_runsOn_of_leavesOpen
    {line : List Char}
    {after : List (List Char)}
    (isKeyword : firstWord line = keyword)
    (opened : LeavesOpen (Text.trimStart (afterWord line)) after) :
    ∃ path, RunsOn line after path := by
  obtain ⟨mark, body, isMark, opens, notClosed, closing⟩ := opened
  obtain ⟨more, rest, closed, first⟩ := List.eq_append_cons_of_mem
    ((mem_below_of_ne isMark.ne_lineFeed).mpr closing)
  exact ⟨body ++ more, .unclosed isKeyword isMark opens notClosed closed first⟩

/-- What is read for a directive stands on its line, or the directive runs on. -/
theorem declares_or_runsOn
    {path line : List Char}
    {after : List (List Char)}
    (read : pathFrom? line after = some path) :
    Declares path line ∨ RunsOn line after path := by
  have isKeyword : firstWord line = keyword := by
    by_contra other
    rw [pathFrom?, if_neg other] at read
    cases read
  by_cases nothing : Text.trimStart (afterWord line) = []
  · rw [pathFrom?, if_pos isKeyword, Text.trimStart_append, if_pos nothing] at read
    exact .inr (.alone isKeyword nothing (path?_eq_some_iff.mp read))
  · by_cases opened : LeavesOpen (Text.trimStart (afterWord line)) after
    · obtain ⟨other, runsOn⟩ := exists_runsOn_of_leavesOpen isKeyword opened
      obtain rfl := Option.some.inj (read.symm.trans (pathFrom?_of_runsOn runsOn))
      exact .inr runsOn
    · rw [pathFrom?_eq_path? isKeyword nothing opened, path?_eq_some_iff] at read
      exact .inl (declares_iff.mpr ⟨isKeyword, read.imp_right And.right⟩)

/-- A line that declares a path gives one, whatever stands below. -/
theorem pathFrom?_ne_none_of_declares
    {path line : List Char}
    (declares : Declares path line)
    (after : List (List Char)) :
    pathFrom? line after ≠ none := by
  obtain ⟨isKeyword, form⟩ := declares_iff.mp declares
  have visible := form.elim Encloses.visible StartsBare.visible
  by_cases opened : LeavesOpen (Text.trimStart (afterWord line)) after
  · obtain ⟨other, runsOn⟩ := exists_runsOn_of_leavesOpen isKeyword opened
    rw [pathFrom?_of_runsOn runsOn]
    exact Option.some_ne_none other
  · rw [pathFrom?_eq_path? isKeyword (ne_nil_of_visible visible) opened,
      Option.ne_none_iff_exists']
    simp only [path?_eq_some_iff]
    by_cases enclosed : ∃ other, Encloses other (Text.trimStart (afterWord line))
    · obtain ⟨other, encloses⟩ := enclosed
      exact ⟨other, .inl encloses⟩
    · rw [not_exists] at enclosed
      exact ⟨path, .inr ⟨enclosed, form.resolve_left (enclosed path)⟩⟩

theorem firstDirective?_of_firstRunsOn
    {path : List Char}
    {rows : List (List Char)}
    (runsOn : FirstRunsOn rows path) :
    firstDirective? rows = some path := by
  induction runsOn with
  | here runsOn => rw [firstDirective?_cons, pathFrom?_of_runsOn runsOn, Option.some_or]
  | @later line path after undeclared complete runsOn inductionHypothesis =>
      have silent : pathFrom? line after = none := by
        rw [Option.eq_none_iff_forall_ne_some]
        intro own read
        exact (declares_or_runsOn read).elim (undeclared own) (complete own)
      rw [firstDirective?_cons, silent, Option.none_or, inductionHypothesis]

/-- What is read is declared on a line, or the first directive that gives a path runs
on. -/
theorem declares_or_firstRunsOn
    {path : List Char}
    {rows : List (List Char)}
    (read : firstDirective? rows = some path) :
    (∃ line ∈ rows, Declares path line) ∨ FirstRunsOn rows path := by
  induction rows with
  | nil => cases read
  | cons line after inductionHypothesis =>
      rw [firstDirective?_cons] at read
      cases here : pathFrom? line after with
      | some own =>
          rw [here, Option.some_or] at read
          obtain rfl := Option.some.inj read
          rcases declares_or_runsOn here with declares | runsOn
          · exact .inl ⟨line, List.mem_cons_self, declares⟩
          · exact .inr (.here runsOn)
      | none =>
          rw [here, Option.none_or] at read
          rcases inductionHypothesis read with ⟨other, inside, declares⟩ | runsOn
          · exact .inl ⟨other, List.mem_cons_of_mem _ inside, declares⟩
          · refine .inr (.later ?_ ?_ runsOn)
            · intro own declares
              exact pathFrom?_ne_none_of_declares declares after here
            · intro own runsOnHere
              cases here.symm.trans (pathFrom?_of_runsOn runsOnHere)

/-! ## Where the module path stands -/

/-- One of the lines of a manifest declares a path. -/
def IsDeclared (content : String) (path : List Char) : Prop :=
  ∃ line ∈ lines content, Declares path line

/-- The module path that is read for a manifest stands in a directive on one of its
lines, and it is found missing if no line declares one, exactly if the first directive
that gives a path does not run on, or reads below what another line declares. -/
theorem modulePath?_isDeclared_iff (content : String) :
    ((∀ path, modulePath? content = some path → IsDeclared content path.toList) ∧
      ∀ (system : FileSystem) (root : Path),
        system.readText (Project.manifestPath root) = .ok content →
        (∀ path, ¬IsDeclared content path) →
        Project.modulePath system root =
          .error (.moduleDirectiveMissing (Project.manifestPath root))) ↔
      ∀ path, FirstRunsOn (lines content) path → IsDeclared content path := by
  constructor
  · rintro ⟨sound, -⟩ path runsOn
    have read : modulePath? content = some (String.ofList path) := by
      rw [modulePath?, firstDirective?_of_firstRunsOn runsOn, Option.map_some]
    simpa using sound _ read
  · intro excused
    have sound : ∀ path, modulePath? content = some path →
        IsDeclared content path.toList := by
      intro path read
      obtain ⟨characters, isFirst, rfl⟩ := Option.map_eq_some_iff.mp read
      rw [String.toList_ofList]
      exact (declares_or_firstRunsOn isFirst).elim id (excused characters)
    refine ⟨sound, ?_⟩
    intro system root readable undeclared
    have missing : modulePath? content = none := by
      rw [Option.eq_none_iff_forall_ne_some]
      intro path read
      exact undeclared path.toList (sound path read)
    simp only [Project.modulePath, readable, missing]

/-- A manifest in which the word of the directive stands alone. The path that is read
is the word of the line below, and no line declares it. -/
theorem not_isDeclared_go :
    modulePath? "module\ngo 1.22\n" = some "go" ∧
      ¬IsDeclared "module\ngo 1.22\n" "go".toList := by
  refine ⟨by decide, ?_⟩
  rintro ⟨line, inside, declares⟩
  have silent : ∀ line ∈ lines "module\ngo 1.22\n", pathFrom? line [] = none := by
    decide
  exact pathFrom?_ne_none_of_declares declares [] (silent line inside)

end Manifest
end EnvTags
