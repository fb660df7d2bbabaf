import EnvTags.Proofs.FileSystem.Place
import EnvTags.Proofs.FileSystem.View
import EnvTags.Proofs.Project.SourceFiles

/-!
# What a walk visits

A walk through a project goes from a directory to those entries of it that are
not left out. What it lists below a directory that it visits is what it would list
if it went through that directory alone. Without patterns to ignore, the files it
lists in the directory itself are the source files of the directory in the order
of their names, unless one of them is hidden.
-/

namespace EnvTags

namespace Entry

/-- The entries of a directory as a walk goes through them. -/
def walked (entries : List (Name × Entry)) : List (Name × Entry) :=
  (sortByName entries).map (Prod.map id sorted)

theorem sorted_directory (entries : List (Name × Entry)) :
    sorted (directory entries) = directory (walked entries) := by
  have sameView : sorted = seen id := funext sorted_eq_seen
  rw [walked, sameView, seen_directory]

@[simp] theorem isDirectory_sorted (entry : Entry) :
    (sorted entry).isDirectory = entry.isDirectory := by
  cases entry <;> rfl

theorem mem_walked
    {name : Name}
    {entry : Entry}
    {entries : List (Name × Entry)}
    (present : (name, entry) ∈ entries) :
    (name, sorted entry) ∈ walked entries :=
  List.mem_map.mpr ⟨(name, entry), mem_sortByName.mpr present, rfl⟩

/-- A walk meets the names in another order. -/
theorem perm_map_fst_walked (entries : List (Name × Entry)) :
    ((walked entries).map Prod.fst).Perm (entries.map Prod.fst) := by
  rw [walked, List.map_map]
  exact (perm_sortByName entries).map Prod.fst

theorem areWellNamed_walked
    {entries : List (Name × Entry)}
    (wellNamed : areWellNamed entries = true) :
    areWellNamed (walked entries) = true := by
  have sortedNamed := isWellNamed_sorted (directory entries) wellNamed
  rw [sorted_directory] at sortedNamed
  exact sortedNamed

/-- Among entries with different names, a name is that of one entry. -/
theorem lookup_of_mem
    {entries : List (Name × Entry)}
    (distinct : (entries.map Prod.fst).Nodup)
    {name : Name}
    {entry : Entry}
    (present : (name, entry) ∈ entries) :
    entries.lookup name = some entry := by
  induction entries with
  | nil => cases present
  | cons first entries inductionHypothesis =>
      rw [List.map_cons, List.nodup_cons] at distinct
      rw [List.lookup_cons]
      rcases List.mem_cons.mp present with rfl | later
      · simp
      · have different : name ≠ first.1 := by
          intro sameName
          exact distinct.1 (List.mem_map.mpr ⟨_, later, sameName⟩)
        rw [beq_eq_false_iff_ne.mpr different]
        exact inductionHypothesis distinct.2 later

/-- Among entries with different names, what is taken from the entry with a name
is taken from one entry. -/
theorem flatMap_ite_fst_eq
    {entries : List (Name × Entry)}
    (distinct : (entries.map Prod.fst).Nodup)
    {name : Name}
    {entry : Entry}
    (present : (name, entry) ∈ entries)
    (rows : Name × Entry → List (List Name)) :
    (entries.flatMap fun child => if child.1 = name then rows child else []) =
      rows (name, entry) := by
  induction entries with
  | nil => cases present
  | cons first entries inductionHypothesis =>
      rw [List.map_cons, List.nodup_cons] at distinct
      rw [List.flatMap_cons]
      rcases List.mem_cons.mp present with rfl | later
      · rw [if_pos rfl, List.flatMap_eq_nil_iff.mpr, List.append_nil]
        intro child inside
        refine if_neg fun sameName => distinct.1 ?_
        exact List.mem_map.mpr ⟨child, inside, sameName⟩
      · have different : first.1 ≠ name := by
          intro sameName
          exact distinct.1 (List.mem_map.mpr ⟨_, later, sameName.symm⟩)
        rw [if_neg different, List.nil_append,
          inductionHypothesis distinct.2 later]

end Entry

namespace Project

/-! ## The rows of one entry -/

/-- What a walk lists for one entry of a directory. -/
def rowsOf
    (exclusions : Exclusions)
    (names : List Name)
    (child : Name × Entry) : List (List Name) :=
  if exclusions.excludes (names ++ [child.1]) child.2 then []
  else filesBelow exclusions (names ++ [child.1]) child.2

theorem filesAmong_eq_flatMap
    (exclusions : Exclusions)
    (names : List Name)
    (children : List (Name × Entry)) :
    filesAmong exclusions names children =
      children.flatMap (rowsOf exclusions names) := by
  induction children with
  | nil => rw [filesAmong, List.flatMap_nil]
  | cons child children inductionHypothesis =>
      rw [filesAmong, inductionHypothesis, List.flatMap_cons, rowsOf]

/-- The rows of an entry go on after its name. -/
theorem mem_rowsOf
    {exclusions : Exclusions}
    {names row : List Name}
    {child : Name × Entry}
    (wellNamed : child.2.isWellNamed = true)
    (present : row ∈ rowsOf exclusions names child) :
    ∃ below, row = names ++ child.1 :: below ∧
      (child.2.isDirectory = true → below ≠ []) := by
  obtain ⟨name, entry⟩ := child
  rw [rowsOf] at present
  split at present
  · cases present
  · cases entry with
    | file content =>
        obtain ⟨below, isRow, -⟩ := mem_filesBelow (.file content) rfl present
        exact ⟨below, by simpa using isRow, by simp [Entry.isDirectory]⟩
    | directory entries =>
        obtain ⟨first, below, isRow, -⟩ :=
          mem_filesAmong entries wellNamed present
        exact ⟨first :: below, by simpa using isRow, by simp⟩

/-- A file that is not hidden is listed if it is a source file, unless a pattern
ignores it. -/
theorem rowsOf_file
    {exclusions : Exclusions}
    (ignoresNothing : exclusions.ignored = [])
    {names : List Name}
    {name : Name}
    {content : Content}
    (visible : isSourceFile (name, .file content) = true →
      Exclusions.isHidden name = false) :
    rowsOf exclusions names (name, .file content) =
      if isSourceFile (name, .file content) then [names ++ [name]] else [] := by
  cases isSource : isSourceFile (name, .file content) with
  | true =>
      have kept : exclusions.excludes (names ++ [name]) (.file content) =
          false := by
        simp [Exclusions.excludes, ignoresNothing, Entry.isDirectory,
          visible isSource]
      have isSourceName : isSourceName name = true := by
        simpa [isSourceFile, Entry.isDirectory] using isSource
      simp [rowsOf, kept, filesBelow, isSourceName]
  | false =>
      have isSourceName : isSourceName name = false := by
        simpa [isSourceFile, Entry.isDirectory] using isSource
      simp [rowsOf, filesBelow, isSourceName]

theorem isSourceFile_sorted (child : Name × Entry) :
    isSourceFile (child.map id Entry.sorted) = isSourceFile child := by
  obtain ⟨name, content | entries⟩ := child <;> rfl

/-- A walk meets the source files of a directory in the order of their names. -/
theorem map_fst_filter_walked (entries : List (Name × Entry)) :
    ((Entry.walked entries).filter isSourceFile).map Prod.fst =
      (Entry.sortByName (entries.filter isSourceFile)).map Prod.fst := by
  have sources : ((Entry.walked entries).filter isSourceFile).map Prod.fst =
      ((Entry.sortByName entries).filter isSourceFile).map Prod.fst := by
    have sameSources : isSourceFile ∘ Prod.map id Entry.sorted =
        isSourceFile := by
      funext child
      exact isSourceFile_sorted child
    rw [Entry.walked, List.filter_map, List.map_map, sameSources]
    rfl
  rw [sources, Entry.eq_map_fst_sortByName_iff]
  refine ⟨((Entry.perm_sortByName entries).filter _).map _, ?_⟩
  exact List.pairwise_map.mpr ((Entry.inOrder_sortByName entries).filter _)

section Rows

variable
  {exclusions : Exclusions}
  {names : List Name}
  {children : List (Name × Entry)}
  (wellNamed : Entry.areWellNamed children = true)
include wellNamed

/-- The rows that go on after a name are those of the entry with that name. -/
theorem filter_isPrefixOf_filesAmong
    (distinct : (children.map Prod.fst).Nodup)
    {name : Name}
    {entry : Entry}
    (present : (name, entry) ∈ children) :
    (filesAmong exclusions names children).filter
        (fun row => (names ++ [name]).isPrefixOf row) =
      rowsOf exclusions names (name, entry) := by
  have ofChild : ∀ child ∈ children,
      (rowsOf exclusions names child).filter
          (fun row => (names ++ [name]).isPrefixOf row) =
        if child.1 = name then rowsOf exclusions names child else [] := by
    intro child inside
    have childNamed := (Entry.areWellNamed_iff.mp wellNamed child inside).2
    split
    · rename_i sameName
      rw [List.filter_eq_self]
      intro row inRows
      obtain ⟨below, rfl, -⟩ := mem_rowsOf childNamed inRows
      simp [List.isPrefixOf_iff_prefix, sameName]
    · rename_i different
      rw [List.filter_eq_nil_iff]
      intro row inRows
      obtain ⟨below, rfl, -⟩ := mem_rowsOf childNamed inRows
      simpa [List.isPrefixOf_iff_prefix] using Ne.symm different
  rw [filesAmong_eq_flatMap, List.filter_flatMap,
    List.flatMap_congr ofChild, Entry.flatMap_ite_fst_eq distinct present]

/-- The rows that end in the directory itself are those of its source files, if
no pattern is ignored and none of these files is hidden. -/
theorem filter_dropLast_filesAmong
    (names : List Name)
    (ignoresNothing : exclusions.ignored = [])
    (visible : ∀ child ∈ children, isSourceFile child = true →
      Exclusions.isHidden child.1 = false) :
    (filesAmong exclusions names children).filter
        (fun row => row.dropLast = names) =
      (children.filter isSourceFile).map fun child => names ++ [child.1] := by
  induction children with
  | nil => rw [filesAmong_eq_flatMap]; rfl
  | cons child children inductionHypothesis =>
      obtain ⟨childNamed, othersNamed⟩ :=
        List.forall_mem_cons.mp (Entry.areWellNamed_iff.mp wellNamed)
      obtain ⟨childVisible, othersVisible⟩ := List.forall_mem_cons.mp visible
      have rest := inductionHypothesis (Entry.areWellNamed_iff.mpr othersNamed)
        othersVisible
      rw [filesAmong_eq_flatMap] at rest ⊢
      rw [List.flatMap_cons, List.filter_append, rest, List.filter_cons]
      obtain ⟨name, content | entries⟩ := child
      · rw [rowsOf_file ignoresNothing childVisible]
        split
        · simp
        · simp
      · -- The rows of a directory end further below.
        rw [if_neg (by simp [isSourceFile, Entry.isDirectory]),
          List.filter_eq_nil_iff.mpr, List.nil_append]
        intro row inRows
        obtain ⟨below, rfl, nonempty⟩ := mem_rowsOf childNamed.2 inRows
        obtain ⟨first, others, rfl⟩ := List.exists_cons_of_ne_nil (nonempty rfl)
        simp

end Rows

/-! ## Visited directories -/

/-- A walk comes to a directory, given by the names that lead to it from the root
and by its entries. -/
inductive Visited
    (exclusions : Exclusions)
    (rootEntries : List (Name × Entry)) :
    List Name → List (Name × Entry) → Prop
  | root : Visited exclusions rootEntries [] rootEntries
  | descend
      {names : List Name}
      {entries inner : List (Name × Entry)}
      {name : Name}
      (visited : Visited exclusions rootEntries names entries)
      (present : (name, .directory inner) ∈ entries)
      (kept : exclusions.excludes (names ++ [name]) (.directory inner) =
        false) :
      Visited exclusions rootEntries (names ++ [name]) inner

namespace Visited

variable
  {exclusions : Exclusions}
  {rootEntries entries : List (Name × Entry)}
  {names : List Name}

/-- The names that lead to a visited directory and all names in it are names of
entries. -/
theorem areNames
    (visited : Visited exclusions rootEntries names entries)
    (wellNamed : Entry.areWellNamed rootEntries = true) :
    (∀ name ∈ names, Path.IsEntryName name) ∧
      Entry.areWellNamed entries = true := by
  induction visited with
  | root => exact ⟨by simp, wellNamed⟩
  | descend visited present kept inductionHypothesis =>
      obtain ⟨areNames, named⟩ := inductionHypothesis
      obtain ⟨isName, innerNamed⟩ := Entry.areWellNamed_iff.mp named _ present
      refine ⟨?_, innerNamed⟩
      intro other inside
      rcases List.mem_append.mp inside with before | last
      · exact areNames other before
      · exact List.mem_singleton.mp last ▸ isName

/-- The entries of a visited directory have different names. -/
theorem distinct
    (visited : Visited exclusions rootEntries names entries)
    (distinctNames : (Entry.directory rootEntries).hasDistinctNames = true) :
    (Entry.directory entries).hasDistinctNames = true := by
  induction visited with
  | root => exact distinctNames
  | descend visited present kept inductionHypothesis =>
      exact (Entry.hasDistinctNames_directory_iff.mp inductionHypothesis).2 _
        present

/-- The names lead to the directory. -/
theorem entry_eq
    (visited : Visited exclusions rootEntries names entries)
    (wellNamed : Entry.areWellNamed rootEntries = true)
    (distinctNames : (Entry.directory rootEntries).hasDistinctNames = true)
    {system : FileSystem}
    {root : Path}
    (atRoot : system.entry root = .ok (.directory rootEntries)) :
    system.entry (pathBelow root names) = .ok (.directory entries) := by
  induction visited with
  | root => exact atRoot
  | descend visited present kept inductionHypothesis =>
      have isName := (Entry.areWellNamed_iff.mp
        (visited.areNames wellNamed).2 _ present).1
      have differ := (Entry.hasDistinctNames_directory_iff.mp
        (visited.distinct distinctNames)).1
      rw [pathBelow_concat, FileSystem.entry_child_eq inductionHypothesis
        isName.1, Entry.lookup_of_mem differ present]

/-- What a walk lists below a visited directory is what it lists if it goes
through that directory alone. -/
theorem filter_isPrefixOf
    (visited : Visited exclusions rootEntries names entries)
    (wellNamed : Entry.areWellNamed rootEntries = true)
    (distinctNames : (Entry.directory rootEntries).hasDistinctNames = true) :
    (filesAmong exclusions [] (Entry.walked rootEntries)).filter
        (fun row => names.isPrefixOf row) =
      filesAmong exclusions names (Entry.walked entries) := by
  induction visited with
  | root => simp
  | @descend names entries inner name visited present kept inductionHypothesis =>
      have named := (visited.areNames wellNamed).2
      have differ := (Entry.hasDistinctNames_directory_iff.mp
        (visited.distinct distinctNames)).1
      have shorter : ∀ row : List Name,
          ((names ++ [name]).isPrefixOf row && names.isPrefixOf row) =
            (names ++ [name]).isPrefixOf row := by
        intro row
        rw [Bool.and_eq_left_iff_imp]
        simp only [List.isPrefixOf_iff_prefix]
        exact (List.prefix_append names [name]).trans
      have ofName : (filesAmong exclusions names
            (Entry.walked entries)).filter
              (fun row => (names ++ [name]).isPrefixOf row) =
          rowsOf exclusions names (name, (Entry.directory inner).sorted) :=
        filter_isPrefixOf_filesAmong (Entry.areWellNamed_walked named)
          ((Entry.perm_map_fst_walked entries).nodup_iff.mpr differ)
          (Entry.mem_walked present)
      rw [← inductionHypothesis, List.filter_filter] at ofName
      simp only [shorter] at ofName
      rw [ofName, Entry.sorted_directory, rowsOf]
      exact if_neg (by simpa [Exclusions.excludes, Entry.isDirectory] using kept)

/-- The files that a walk lists in a visited directory itself are its source
files in the order of their names, if no pattern is ignored and none of them is
hidden. -/
theorem filter_dropLast
    (visited : Visited exclusions rootEntries names entries)
    (wellNamed : Entry.areWellNamed rootEntries = true)
    (distinctNames : (Entry.directory rootEntries).hasDistinctNames = true)
    (ignoresNothing : exclusions.ignored = [])
    (visible : ∀ child ∈ entries, isSourceFile child = true →
      Exclusions.isHidden child.1 = false) :
    (filesAmong exclusions [] (Entry.walked rootEntries)).filter
        (fun row => row.dropLast = names) =
      (Entry.sortByName (entries.filter isSourceFile)).map fun child =>
        names ++ [child.1] := by
  have isBelow : ∀ row : List Name,
      (decide (row.dropLast = names) && names.isPrefixOf row) =
        decide (row.dropLast = names) := by
    intro row
    rw [Bool.and_eq_left_iff_imp, decide_eq_true_eq,
      List.isPrefixOf_iff_prefix]
    rintro rfl
    exact row.dropLast_prefix
  have alsoVisible : ∀ child ∈ Entry.walked entries,
      isSourceFile child = true → Exclusions.isHidden child.1 = false := by
    intro child inside isSource
    obtain ⟨original, present, rfl⟩ := List.mem_map.mp inside
    exact visible original (Entry.mem_sortByName.mp present)
      (isSourceFile_sorted original ▸ isSource)
  have listed := filter_dropLast_filesAmong
    (Entry.areWellNamed_walked (visited.areNames wellNamed).2) names
    ignoresNothing alsoVisible
  rw [← visited.filter_isPrefixOf wellNamed distinctNames,
    List.filter_filter] at listed
  simp only [isBelow] at listed
  have sameNames := congrArg (List.map fun name => names ++ [name])
    (map_fst_filter_walked entries)
  simp only [List.map_map] at sameNames
  exact listed.trans sameNames

end Visited
end Project
end EnvTags
