import EnvTags.Proofs.Dependency.Listing
import EnvTags.Proofs.FileSystem.Growth
import EnvTags.Proofs.FileSystem.Order
import EnvTags.Proofs.Project.Scan
import EnvTags.Proofs.Project.Walk

/-!
# Scans beside a hidden file

A new file whose name starts with a dot, and which is not a source file, is not
seen by any scan: the walk through a project leaves it out, and a directory lists
the same source files.
-/

namespace EnvTags

namespace Entry

/-! ## Sorting with one entry more -/

/-- If entries are in order, it makes no difference to an insertion whether one of
them is there. -/
theorem exists_insertByName_append
    {before after : List (Name × Entry)}
    {extra : Name × Entry}
    (inOrder : InOrder (before ++ extra :: after))
    (entry : Name × Entry) :
    ∃ left right, insertByName entry (before ++ after) = left ++ right ∧
      insertByName entry (before ++ extra :: after) = left ++ extra :: right := by
  induction before with
  | nil =>
      by_cases smaller : extra.1 < entry.1
      · exact ⟨[], insertByName entry after, rfl, by simp [insertByName, smaller]⟩
      · refine ⟨[entry], after, ?_, by simp [insertByName, smaller]⟩
        cases after with
        | nil => rfl
        | cons first after =>
            have ascending : extra.1 ≤ first.1 :=
              (List.pairwise_cons.mp inOrder).1 first List.mem_cons_self
            have notSmaller : ¬first.1 < entry.1 :=
              not_lt.mpr ((not_lt.mp smaller).trans ascending)
            simp [insertByName, notSmaller]
  | cons first before inductionHypothesis =>
      by_cases smaller : first.1 < entry.1
      · obtain ⟨left, right, without, withExtra⟩ :=
          inductionHypothesis (List.pairwise_cons.mp inOrder).2
        refine ⟨first :: left, right, ?_, ?_⟩
        · simp [insertByName, smaller, without]
        · simp [insertByName, smaller, withExtra]
      · refine ⟨entry :: first :: before, after, ?_, ?_⟩ <;>
          simp [insertByName, smaller]

/-- Sorting puts one entry more somewhere between the others. -/
theorem exists_sortByName_concat
    (entries : List (Name × Entry))
    (extra : Name × Entry) :
    ∃ before after, sortByName entries = before ++ after ∧
      sortByName (entries ++ [extra]) = before ++ extra :: after := by
  induction entries with
  | nil => exact ⟨[], [], rfl, rfl⟩
  | cons entry entries inductionHypothesis =>
      obtain ⟨before, after, without, withExtra⟩ := inductionHypothesis
      have inOrder := inOrder_sortByName (entries ++ [extra])
      rw [withExtra] at inOrder
      rw [List.cons_append, sortByName, sortByName, without, withExtra]
      exact exists_insertByName_append inOrder entry

/-! ## Sorting entries with the same names -/

section Related

variable
  {related : Name × Entry → Name × Entry → Prop}
  (sameName : ∀ {left right : Name × Entry}, related left right →
    right.1 = left.1)
include sameName

theorem forall₂_insertByName
    {left right : Name × Entry}
    (isRelated : related left right)
    {entries others : List (Name × Entry)}
    (areRelated : List.Forall₂ related entries others) :
    List.Forall₂ related (insertByName left entries)
      (insertByName right others) := by
  induction areRelated with
  | nil => exact .cons isRelated .nil
  | @cons first other entries others firstRelated restRelated
      inductionHypothesis =>
      rw [insertByName, insertByName, sameName isRelated, sameName firstRelated]
      split
      · exact .cons firstRelated inductionHypothesis
      · exact .cons isRelated (.cons firstRelated restRelated)

/-- Entries with the same names are sorted alike. -/
theorem forall₂_sortByName
    {entries others : List (Name × Entry)}
    (areRelated : List.Forall₂ related entries others) :
    List.Forall₂ related (sortByName entries) (sortByName others) := by
  induction areRelated with
  | nil => exact .nil
  | cons isRelated _ inductionHypothesis =>
      exact forall₂_insertByName sameName isRelated inductionHypothesis

end Related

end Entry

namespace Project

variable {name : Name} {content : Content}

/-! ## The walk through a grown tree -/

/-- A walk lists the same below two entries with the same name. -/
def ListedAlike
    (exclusions : Exclusions)
    (names : List Name)
    (child other : Name × Entry) : Prop :=
  other.1 = child.1 ∧
    rowsOf exclusions names (other.map id Entry.sorted) =
      rowsOf exclusions names (child.map id Entry.sorted)

/-- Children that are listed alike give the same rows. -/
theorem flatMap_rowsOf_of_listedAlike
    {exclusions : Exclusions}
    {names : List Name}
    {children others : List (Name × Entry)}
    (areAlike : List.Forall₂ (ListedAlike exclusions names) children others) :
    others.flatMap (fun child =>
        rowsOf exclusions names (child.map id Entry.sorted)) =
      children.flatMap fun child =>
        rowsOf exclusions names (child.map id Entry.sorted) := by
  induction areAlike with
  | nil => rfl
  | cons isAlike _ rest =>
      rw [List.flatMap_cons, List.flatMap_cons, isAlike.2, rest]

/-- A walk through a tree that has grown by a hidden file lists the same. -/
theorem filesBelow_sorted_of_grown
    (isHidden : Exclusions.isHidden name = true)
    (exclusions : Exclusions)
    {entry grown : Entry}
    (isGrown : Entry.Grown name content entry grown)
    (names : List Name) :
    filesBelow exclusions names grown.sorted =
      filesBelow exclusions names entry.sorted := by
  induction isGrown generalizing names with
  | same entry => rfl
  | @here entries absent =>
      obtain ⟨before, after, without, withNew⟩ :=
        Entry.exists_sortByName_concat entries (name, .file content)
      have noRows : rowsOf exclusions names (name, .file content) = [] := by
        simp [rowsOf, Exclusions.excludes, isHidden]
      simp only [Entry.sorted_directory, filesBelow, filesAmong_eq_flatMap,
        Entry.walked, without, withNew]
      simp [Entry.sorted, noRows]
  | @inside before after child inner grown isFirst isGrown inductionHypothesis =>
      have alike : ListedAlike exclusions names (child, inner) (child, grown) := by
        refine ⟨rfl, ?_⟩
        simp [rowsOf, Exclusions.excludes, inductionHypothesis,
          isGrown.isDirectory_eq]
      have others : ∀ entries : List (Name × Entry),
          List.Forall₂ (ListedAlike exclusions names) entries entries :=
        fun entries => List.forall₂_same.mpr fun _ _ => ⟨rfl, rfl⟩
      have allAlike := Entry.forall₂_sortByName (fun isAlike => isAlike.1)
        (List.rel_append (others before) (.cons alike (others after)))
      simp only [Entry.sorted_directory, filesBelow, filesAmong_eq_flatMap,
        Entry.walked, List.flatMap_map]
      exact flatMap_rowsOf_of_listedAlike allAlike

/-- The rows that a walk lists end with the name of a source file, and none of the
names that it has met is hidden. -/
theorem exists_visible_of_mem_filesBelow
    {exclusions : Exclusions}
    {entry : Entry}
    {names row : List Name}
    (present : row ∈ filesBelow exclusions names entry) :
    ∃ below, row = names ++ below ∧
      (∀ name ∈ below, Exclusions.isHidden name = false) ∧
      row.getLast?.any isSourceName = true := by
  induction entry using Entry.inductionOn generalizing names with
  | ofFile content =>
      rw [filesBelow] at present
      split at present
      · rename_i isSource
        obtain rfl := List.mem_singleton.mp present
        exact ⟨[], by simp, by simp, isSource⟩
      · cases present
  | ofDirectory entries inductionHypothesis =>
      rw [filesBelow, filesAmong_eq_flatMap] at present
      obtain ⟨child, inEntries, inRows⟩ := List.mem_flatMap.mp present
      rw [rowsOf] at inRows
      split at inRows
      · cases inRows
      · rename_i kept
        have visible : Exclusions.isHidden child.1 = false := by
          simp only [Exclusions.excludes, Bool.or_eq_true, not_or] at kept
          simpa using kept.1.1
        obtain ⟨below, rfl, areVisible, isSource⟩ :=
          inductionHypothesis child inEntries inRows
        refine ⟨child.1 :: below, by simp, ?_, isSource⟩
        exact List.forall_mem_cons.mpr ⟨visible, areVisible⟩

/-! ## The files of a project -/

/-- The source files of a root that is a directory have the names of source files,
in directories that no hidden name leads to. -/
theorem exists_child_of_mem_sourceFiles
    {system : FileSystem}
    {root : Path}
    (isDirectory : system.isDirectory root = true)
    {exclusions : Exclusions}
    {paths : List Path}
    (listed : sourceFiles system root exclusions = .ok paths)
    {path : Path}
    (present : path ∈ paths) :
    ∃ names name, path = (pathBelow root names).child name ∧
      (∀ other ∈ names ++ [name], Exclusions.isHidden other = false) ∧
      isSourceName name = true := by
  obtain ⟨entries, atRoot⟩ := FileSystem.exists_directory_of_isDirectory isDirectory
  rw [sourceFiles, atRoot] at listed
  obtain rfl := Except.ok.inj listed
  rw [Entry.sorted_directory, filesOf] at present
  obtain ⟨row, inRows, rfl⟩ := List.mem_map.mp present
  obtain ⟨below, rfl, areVisible, isSource⟩ := exists_visible_of_mem_filesBelow
    (show row ∈ filesBelow exclusions [] (.directory (Entry.walked entries)) by
      rwa [filesBelow])
  cases isLast : row.getLast? with
  | none => simp [isLast] at isSource
  | some name =>
      obtain ⟨names, rfl⟩ := List.getLast?_eq_some_iff.mp isLast
      exact ⟨names, name, pathBelow_concat root names name, areVisible,
        by simpa [isLast] using isSource⟩

section Grown

variable
  (isHidden : Exclusions.isHidden name = true)
  {system next : FileSystem}
  (isGrown : FileSystem.Grown name content system next)
include isHidden isGrown

/-- A project that has grown by a hidden file has the same source files. -/
theorem sourceFiles_of_grown
    {root : Path}
    (isDirectory : system.isDirectory root = true)
    (exclusions : Exclusions) :
    sourceFiles next root exclusions = sourceFiles system root exclusions := by
  obtain ⟨entries, before⟩ := FileSystem.exists_directory_of_isDirectory isDirectory
  obtain ⟨grownEntries, after⟩ := FileSystem.exists_directory_of_isDirectory
    ((isGrown.isDirectory_eq root).trans isDirectory)
  obtain ⟨grown, found, rootGrown⟩ := isGrown.exists_entry before
  obtain rfl : grown = .directory grownEntries :=
    Except.ok.inj (found.symm.trans after)
  have sameRows := filesBelow_sorted_of_grown isHidden exclusions rootGrown []
  simp only [Entry.sorted_directory, filesBelow] at sameRows
  rw [sourceFiles, sourceFiles, before, after]
  simp only [Entry.sorted_directory, filesOf, sameRows]

/-- Paths lead alike below a path that does if no name in them is hidden. -/
theorem resultsGrown_pathBelow
    {root : Path}
    (nonempty : root ≠ Path.empty)
    (resultsGrown : FileSystem.ResultsGrown name content (system.locate root)
      (next.locate root))
    {names : List Name}
    (areVisible : ∀ other ∈ names, Exclusions.isHidden other = false) :
    FileSystem.ResultsGrown name content (system.locate (pathBelow root names))
      (next.locate (pathBelow root names)) := by
  induction names generalizing root with
  | nil => exact resultsGrown
  | cons first names inductionHypothesis =>
      obtain ⟨visible, rest⟩ := List.forall_mem_cons.mp areVisible
      have differs : first ≠ name := by
        rintro rfl
        simp [isHidden] at visible
      exact inductionHypothesis (Path.child_ne_empty nonempty first)
        (isGrown.resultsGrown_locate_child nonempty resultsGrown differs) rest

/-- The source files of the project have the same texts. -/
theorem sameTexts_sourceFiles
    {root : Path}
    (isDirectory : system.isDirectory root = true)
    {exclusions : Exclusions}
    {paths : List Path}
    (listed : sourceFiles system root exclusions = .ok paths) :
    system.SameTexts next paths := by
  intro path present
  obtain ⟨names, last, rfl, areVisible, -⟩ :=
    exists_child_of_mem_sourceFiles isDirectory listed present
  have contained := FileSystem.contains_of_isDirectory isDirectory
  rw [← pathBelow_concat]
  apply isGrown.readText_eq
  exact resultsGrown_pathBelow isHidden isGrown
    (FileSystem.ne_empty_of_contains contained)
    (isGrown.resultsGrown_locate contained) areVisible

/-- The project is scanned alike. -/
theorem scan_of_grown
    {root : Path}
    (isDirectory : system.isDirectory root = true)
    (exclusions : Exclusions)
    (modulePath : String) :
    scan next root modulePath exclusions =
      scan system root modulePath exclusions := by
  rw [scan, scan, sourceFiles_of_grown isHidden isGrown isDirectory]
  cases listed : sourceFiles system root exclusions with
  | error error => rfl
  | ok paths =>
      exact scanFiles_congr
        (sameTexts_sourceFiles isHidden isGrown isDirectory listed) _

end Grown

end Project
end EnvTags
