import EnvTags.Project.Scan
import EnvTags.Proofs.FileSystem.Names

/-!
# Where the source files of a project are

In a well-named file system the path of every source file is that of the root,
continued by the names of directories and of the file. The names of the
directories are those that give the package of the file its identity.
-/

namespace EnvTags
namespace Project

mutual

theorem mem_filesBelow
    {exclusions : Exclusions}
    {names row : List Name}
    (entry : Entry)
    (wellNamed : entry.isWellNamed = true)
    (present : row ∈ filesBelow exclusions names entry) :
    ∃ below, row = names ++ below ∧ ∀ name ∈ below, Path.IsEntryName name := by
  match entry with
  | .file content =>
      rw [filesBelow] at present
      split at present
      · exact ⟨[], by simpa using present, by simp⟩
      · cases present
  | .directory entries =>
      obtain ⟨name, below, isRow, areNames⟩ :=
        mem_filesAmong entries wellNamed present
      exact ⟨name :: below, isRow, areNames⟩

/-- The row of names that leads to a source file goes on with names of
entries. -/
theorem mem_filesAmong
    {exclusions : Exclusions}
    {names row : List Name}
    (entries : List (Name × Entry))
    (wellNamed : Entry.areWellNamed entries = true)
    (present : row ∈ filesAmong exclusions names entries) :
    ∃ name below, row = names ++ name :: below ∧
      ∀ other ∈ name :: below, Path.IsEntryName other := by
  match entries with
  | [] => cases present
  | (name, entry) :: entries =>
      simp only [Entry.areWellNamed, Bool.and_eq_true, decide_eq_true_eq]
        at wellNamed
      obtain ⟨⟨isName, entryNamed⟩, entriesNamed⟩ := wellNamed
      rw [filesAmong, List.mem_append] at present
      rcases present with here | later
      · split at here
        · cases here
        · obtain ⟨below, isRow, areNames⟩ := mem_filesBelow entry entryNamed here
          refine ⟨name, below, by simpa using isRow, ?_⟩
          intro other inside
          rcases List.mem_cons.mp inside with rfl | deeper
          · exact isName
          · exact areNames other deeper
      · exact mem_filesAmong entries entriesNamed later

end

/-! ## Paths -/

/-- The path that a row of names has below a directory has the names as its last
components. -/
theorem components_pathBelow
    (root : Path)
    {names : List Name}
    (areNames : ∀ name ∈ names, Path.IsEntryName name) :
    (pathBelow root names).components =
      root.components ++ names.map Path.Component.name := by
  induction names generalizing root with
  | nil => simp [pathBelow]
  | cons name names inductionHypothesis =>
      have isName := areNames name List.mem_cons_self
      have rest := inductionHypothesis (root.child name) fun other inside =>
        areNames other (List.mem_cons_of_mem _ inside)
      rw [pathBelow, List.foldl_cons]
      rw [pathBelow] at rest
      rw [rest, Path.components_child root isName.1]
      simp

theorem pathBelow_ne_empty
    (root : Path)
    {names : List Name}
    (nonempty : names ≠ [])
    (areNames : ∀ name ∈ names, Path.IsEntryName name) :
    pathBelow root names ≠ Path.empty := by
  intro isEmpty
  have below := components_pathBelow root areNames
  rw [isEmpty] at below
  simp [Path.components, Path.empty, nonempty] at below

theorem pathBelow_ne_empty_of_ne_empty
    {root : Path}
    (nonempty : root ≠ Path.empty)
    (names : List Name) :
    pathBelow root names ≠ Path.empty := by
  induction names generalizing root with
  | nil => exact nonempty
  | cons name names inductionHypothesis =>
      exact inductionHypothesis (Path.child_ne_empty nonempty name)

theorem pathBelow_concat
    (root : Path)
    (names : List Name)
    (name : Name) :
    pathBelow root (names ++ [name]) = (pathBelow root names).child name := by
  simp [pathBelow]

/-- A file lies in the directory that a row of names leads to from the root. -/
def LiesBelow (root : Path) (names : List Name) (file : Path) : Prop :=
  (∀ name ∈ names, Path.IsEntryName name) ∧
    ∃ directory, file.parent? = some directory ∧
      directory.components = root.components ++ names.map Path.Component.name

theorem liesBelow_pathBelow
    (root : Path)
    {names : List Name}
    {name : Name}
    (areNames : ∀ other ∈ names ++ [name], Path.IsEntryName other) :
    LiesBelow root names (pathBelow root (names ++ [name])) := by
  have directories : ∀ other ∈ names, Path.IsEntryName other := by
    intro other inside
    exact areNames other (by simp [inside])
  obtain ⟨parent, isParent, same⟩ := Path.components_parent?_child
    (pathBelow root names) (areNames name (by simp)).1
  rw [components_pathBelow root directories] at same
  refine ⟨directories, parent, ?_, same⟩
  rw [pathBelow_concat, isParent]

/-- The names below the root are read off the path of a file. -/
theorem LiesBelow.namesBelow_eq
    {root file : Path}
    {names : List Name}
    (below : LiesBelow root names file) :
    namesBelow root file = names := by
  obtain ⟨-, directory, isParent, components⟩ := below
  have named : (names.map Path.Component.name).filterMap
      Path.Component.name? = names := by
    rw [List.filterMap_map]
    exact List.filterMap_some
  rw [namesBelow, isParent, Option.getD_some, components,
    Path.componentsAfter?_append, Option.getD_some, named]

/-- A record of the file lies in the directory. -/
theorem LiesBelow.directory_eq
    {root : Path}
    {names : List Name}
    {record : Record}
    (below : LiesBelow root names record.file) :
    record.directory.components =
      root.components ++ names.map Path.Component.name := by
  obtain ⟨-, directory, isParent, components⟩ := below
  rw [Record.directory, isParent, Option.getD_some, components]

/-! ## The files of a project -/

/-- A root that is a file is the only source file. -/
theorem eq_root_of_mem_sourceFiles
    {system : FileSystem}
    {root : Path}
    {exclusions : Exclusions}
    {content : Content}
    (isFile : system.entry root = .ok (.file content))
    {paths : List Path}
    (listed : sourceFiles system root exclusions = .ok paths)
    {path : Path}
    (present : path ∈ paths) :
    path = root := by
  rw [sourceFiles, isFile] at listed
  obtain rfl := Except.ok.inj listed
  rw [Entry.sorted, filesOf] at present
  split at present
  · exact List.mem_singleton.mp present
  · cases present

/-- The source files of a root that is a directory are at the paths of entry
names below it. -/
theorem exists_names_of_mem_sourceFiles
    {system : FileSystem}
    (wellNamed : system.isWellNamed = true)
    {root : Path}
    {exclusions : Exclusions}
    {entries : List (Name × Entry)}
    (isDirectory : system.entry root = .ok (.directory entries))
    {paths : List Path}
    (listed : sourceFiles system root exclusions = .ok paths)
    {path : Path}
    (present : path ∈ paths) :
    ∃ names name, (∀ other ∈ names ++ [name], Path.IsEntryName other) ∧
      path = pathBelow root (names ++ [name]) := by
  have named := Entry.isWellNamed_sorted _
    (FileSystem.isWellNamed_of_entry wellNamed isDirectory)
  rw [sourceFiles, isDirectory] at listed
  obtain rfl := Except.ok.inj listed
  rw [Entry.sorted, filesOf] at present
  rw [Entry.sorted, Entry.isWellNamed] at named
  obtain ⟨row, inRows, rfl⟩ := List.mem_map.mp present
  obtain ⟨first, below, isRow, areNames⟩ := mem_filesAmong _ named inRows
  obtain ⟨names, name, split⟩ : ∃ names name, first :: below = names ++ [name] :=
    ⟨_, _, (List.dropLast_concat_getLast (by simp)).symm⟩
  rw [split] at areNames
  refine ⟨names, name, areNames, ?_⟩
  rw [isRow, List.nil_append, split]

/-- The source files of a root that is a directory lie below it. -/
theorem exists_liesBelow_of_mem_sourceFiles
    {system : FileSystem}
    (wellNamed : system.isWellNamed = true)
    {root : Path}
    {exclusions : Exclusions}
    {entries : List (Name × Entry)}
    (isDirectory : system.entry root = .ok (.directory entries))
    {paths : List Path}
    (listed : sourceFiles system root exclusions = .ok paths)
    {path : Path}
    (present : path ∈ paths) :
    ∃ names, LiesBelow root names path := by
  obtain ⟨names, name, areNames, rfl⟩ := exists_names_of_mem_sourceFiles
    wellNamed isDirectory listed present
  exact ⟨names, liesBelow_pathBelow root areNames⟩

end Project
end EnvTags
