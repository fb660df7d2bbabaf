import EnvTags.Dependency.Resolver
import EnvTags.Proofs.Dependency.HighestVersion
import EnvTags.Proofs.FileSystem.View

/-!
# Listings in a view

Whatever is found by listing directories is found in a file system with the same view
too: the source files of a directory and of a project, and the directories of
packages. None of it depends on the contents of files, and the order of the listings
matters only for directories of packages whose names are read alike. So two file
systems with the same view are scanned alike wherever the files that are listed have
the same texts.
-/

namespace EnvTags

namespace FileSystem

/-- The files at some paths have the same texts in another file system. -/
def SameTexts (system other : FileSystem) (paths : List Path) : Prop :=
  ∀ path ∈ paths, other.readText path = system.readText path

end FileSystem

namespace Project

variable (view : Content → Content)

/-! ## Source files -/

theorem isSourceFile_seen (entry : Name × Entry) :
    isSourceFile (entry.map id (Entry.seen view)) = isSourceFile entry := by
  simp [isSourceFile]

/-- A view of a directory lists the same source files. -/
theorem directoryFiles_seen (system : FileSystem) (directory : Path) :
    directoryFiles (system.seen view) directory =
      directoryFiles system directory := by
  rw [directoryFiles, directoryFiles, FileSystem.readDirectory_seen]
  cases system.readDirectory directory with
  | error failure => rfl
  | ok entries =>
      have filtered : ((Entry.sortByName entries).map
            (Prod.map id (Entry.seen view))).filter isSourceFile =
          ((Entry.sortByName entries).filter isSourceFile).map
            (Prod.map id (Entry.seen view)) := by
        rw [List.filter_map]
        congr 2
        funext entry
        exact isSourceFile_seen view entry
      have sameNames : ((((Entry.sortByName entries).filter isSourceFile).map
            (Prod.map id (Entry.seen view))).map Prod.fst).Perm
          ((entries.filter isSourceFile).map Prod.fst) := by
        rw [List.map_map]
        exact ((Entry.perm_sortByName entries).filter _).map _
      have listed := congrArg (List.map directory.child)
        (Entry.map_fst_sortByName_eq_of_perm sameNames)
      simp only [List.map_map] at listed
      simp only [Except.map, filtered]
      exact congrArg Except.ok listed

/-! ## The walk through a project -/

theorem excludes_seen
    (exclusions : Exclusions)
    (names : List Name)
    (entry : Entry) :
    exclusions.excludes names (entry.seen view) =
      exclusions.excludes names entry := by
  simp [Exclusions.excludes]

theorem filesAmong_map
    {exclusions : Exclusions}
    {entries : List (Name × Entry)}
    {first second : Content → Content}
    (alike : ∀ child ∈ entries, ∀ names,
      filesBelow exclusions names (child.2.seen first) =
        filesBelow exclusions names (child.2.seen second))
    (names : List Name) :
    filesAmong exclusions names
        (entries.map (Prod.map id (Entry.seen first))) =
      filesAmong exclusions names
        (entries.map (Prod.map id (Entry.seen second))) := by
  induction entries with
  | nil => rfl
  | cons child entries inductionHypothesis =>
      have rest := inductionHypothesis fun other inside =>
        alike other (List.mem_cons_of_mem _ inside)
      have here := alike child List.mem_cons_self (names ++ [child.1])
      simp only [List.map_cons, Prod.map, id_eq, filesAmong, excludes_seen] at rest ⊢
      rw [here, rest]

/-- All views of a tree have the same source files. -/
theorem filesBelow_seen
    (exclusions : Exclusions)
    (first second : Content → Content)
    (entry : Entry)
    (names : List Name) :
    filesBelow exclusions names (entry.seen first) =
      filesBelow exclusions names (entry.seen second) := by
  induction entry using Entry.inductionOn generalizing names with
  | ofFile content => rfl
  | ofDirectory entries inductionHypothesis =>
      rw [Entry.seen_directory, Entry.seen_directory, filesBelow, filesBelow]
      apply filesAmong_map
      intro child inside
      exact inductionHypothesis child (Entry.mem_sortByName.mp inside)

theorem filesOf_seen
    (exclusions : Exclusions)
    (root : Path)
    (first second : Content → Content)
    (entry : Entry) :
    filesOf exclusions root (entry.seen first) =
      filesOf exclusions root (entry.seen second) := by
  cases entry with
  | file content => rfl
  | directory entries =>
      have below := filesBelow_seen exclusions first second
        (.directory entries) []
      rw [Entry.seen, Entry.seen, filesBelow, filesBelow] at below
      rw [Entry.seen, Entry.seen, filesOf, filesOf, below]

/-- The source files of a project are those of any view of it. -/
theorem sourceFiles_eq_of_seen
    (system : FileSystem)
    (root : Path)
    (exclusions : Exclusions) :
    sourceFiles system root exclusions =
      match (system.seen view).entry root with
      | .error failure => .error (.unwalkable failure)
      | .ok entry => .ok (filesOf exclusions root entry) := by
  rw [sourceFiles, FileSystem.entry_seen]
  cases system.entry root with
  | error failure => rfl
  | ok entry =>
      simp only [Except.map, Entry.sorted_eq_seen]
      rw [filesOf_seen exclusions root id view]

/-! ## Scans -/

section Scans

variable {view : Content → Content} {system other : FileSystem}

theorem scanFiles_congr
    {paths : List Path}
    (sameTexts : system.SameTexts other paths)
    (scope : Scope) :
    scanFiles other scope paths = scanFiles system scope paths := by
  induction paths with
  | nil => rfl
  | cons path paths inductionHypothesis =>
      have first : scanFile other scope path = scanFile system scope path := by
        rw [scanFile, scanFile, sameTexts path List.mem_cons_self]
      have rest := inductionHypothesis fun later inside =>
        sameTexts later (List.mem_cons_of_mem _ inside)
      rw [scanFiles, scanFiles, first, rest]

theorem modulePath_congr
    {root : Path}
    (sameTexts : system.SameTexts other [manifestPath root]) :
    modulePath other root = modulePath system root := by
  rw [modulePath, modulePath, sameTexts _ List.mem_cons_self]

/-- A project is scanned alike if all its source files have the same texts. -/
theorem scan_congr
    (sameView : other.seen view = system.seen view)
    {root : Path}
    {exclusions : Exclusions}
    (sameTexts : ∀ paths, sourceFiles system root exclusions = .ok paths →
      system.SameTexts other paths)
    (modulePath : String) :
    scan other root modulePath exclusions =
      scan system root modulePath exclusions := by
  have sameFiles : sourceFiles other root exclusions =
      sourceFiles system root exclusions := by
    rw [sourceFiles_eq_of_seen view, sourceFiles_eq_of_seen view, sameView]
  rw [scan, scan, sameFiles]
  cases listed : sourceFiles system root exclusions with
  | error error => rfl
  | ok paths => exact scanFiles_congr (sameTexts paths listed) _

/-- The source files in a directory have the same texts in another file
system. -/
def SameSources (system other : FileSystem) (directory : Path) : Prop :=
  ∀ paths, directoryFiles system directory = .ok paths →
    system.SameTexts other paths

/-- A directory is scanned alike if it has the same source files, with the same
texts. -/
theorem scanDirectory_congr_of_files
    {directory : Path}
    (sameFiles : directoryFiles other directory =
      directoryFiles system directory)
    (sameSources : SameSources system other directory)
    (scope : Scope) :
    scanDirectory other scope directory =
      scanDirectory system scope directory := by
  rw [scanDirectory, scanDirectory, sameFiles]
  cases listed : directoryFiles system directory with
  | error error => rfl
  | ok paths => exact scanFiles_congr (sameSources paths listed) scope

theorem scanDirectory_congr
    (sameView : other.seen view = system.seen view)
    {directory : Path}
    (sameSources : SameSources system other directory)
    (scope : Scope) :
    scanDirectory other scope directory =
      scanDirectory system scope directory := by
  refine scanDirectory_congr_of_files ?_ sameSources scope
  rw [← directoryFiles_seen view, sameView, directoryFiles_seen]

end Scans

end Project

namespace Dependency

/-! ## The directories of packages -/

section Located

variable
  {view : Content → Content}
  {system other : FileSystem}
  (sameView : other.seen view = system.seen view)
  (sameFirsts : system.SameFirsts other)
include sameFirsts

/-- The directory with the highest version of a segment is the same if the same one
comes first among those that are read alike. -/
theorem versionedDirectory_congr (directory : Path) (segment : String) :
    versionedDirectory other directory segment =
      versionedDirectory system directory segment := by
  have firsts := sameFirsts directory
  rw [versionedDirectory, versionedDirectory]
  cases isRead : system.readDirectory directory with
  | error failure =>
      cases isOther : other.readDirectory directory with
      | error otherFailure => simpa [isRead, isOther, Except.map] using firsts ""
      | ok entries => simp [isRead, isOther, Except.map] at firsts
  | ok entries =>
      cases isOther : other.readDirectory directory with
      | error failure => simp [isRead, isOther, Except.map] at firsts
      | ok others =>
          have sameFirst : ∀ text, Entry.firstRead? text others =
              Entry.firstRead? text entries := by
            simpa [isRead, isOther, Except.map] using firsts
          simp only [highestVersion?_congr sameFirst]

include sameView

theorem segmentDirectory_congr (directory : Path) (segment : String) :
    segmentDirectory other directory segment =
      segmentDirectory system directory segment := by
  rw [segmentDirectory, segmentDirectory, FileSystem.isDirectory_congr sameView,
    versionedDirectory_congr sameFirsts]

theorem deepestDirectory_congr (directory : Path) (segments : List String) :
    deepestDirectory other directory segments =
      deepestDirectory system directory segments := by
  induction segments generalizing directory with
  | nil => rfl
  | cons segment segments inductionHypothesis =>
      rw [deepestDirectory, deepestDirectory,
        segmentDirectory_congr sameView sameFirsts]
      simp only [inductionHypothesis]

theorem locateInCache_congr (cache : Path) (importPath : String) :
    locateInCache other cache importPath =
      locateInCache system cache importPath := by
  unfold locateInCache
  simp only [segmentDirectory_congr sameView sameFirsts,
    deepestDirectory_congr sameView sameFirsts]

/-- A package has the same directory in a file system with the same view. -/
theorem Resolver.locate_congr (resolver : Resolver) (importPath : String) :
    resolver.locate other importPath = resolver.locate system importPath := by
  unfold locate
  simp only [FileSystem.isDirectory_congr sameView,
    locateInCache_congr sameView sameFirsts]

end Located

/-- A package is scanned alike if the source files in its directory have the same
texts. -/
theorem scanPackage_congr
    {view : Content → Content}
    {system other : FileSystem}
    (sameView : other.seen view = system.seen view)
    {directory : Path}
    (sameSources : Project.SameSources system other directory)
    (cache : ScanCache)
    (package : String) :
    scanPackage other cache directory package =
      scanPackage system cache directory package := by
  have sameRecords : packageRecords other directory package =
      packageRecords system directory package := by
    rw [packageRecords, packageRecords,
      Project.scanDirectory_congr sameView sameSources]
  rw [scanPackage, scanPackage, sameRecords]

end Dependency
end EnvTags
