import EnvTags.Proofs.Dependency.Listing
import EnvTags.Proofs.FileSystem.Growth
import EnvTags.Proofs.Project.Scan

/-!
# Packages beside a hidden file

A new file that is not a source file does not change what is known of packages:
they are located in the same directories, with the same versions, and declare the
same records. All directories that are looked into are in the file system before
the file is written.
-/

namespace EnvTags

variable {name : Name} {content : Content}

namespace FileSystem

/-- The entries of a directory are in the file system. -/
theorem contains_child_of_mem
    {system : FileSystem}
    {directory : Path}
    {entries : List (Name × Entry)}
    (read : system.readDirectory directory = .ok entries)
    {child : Name × Entry}
    (present : child ∈ entries)
    (steps : Path.StepsToEntry child.1) :
    system.contains (directory.child child.1) = true := by
  obtain ⟨others, found⟩ := exists_directory_of_isDirectory
    (isDirectory_of_readDirectory read)
  obtain rfl : others = entries := by
    simpa [FileSystem.readDirectory, found] using read
  rw [FileSystem.contains, entry_child_eq found steps]
  cases isChild : others.lookup child.1 with
  | some entry => rfl
  | none => simpa using List.lookup_eq_none_iff.mp isChild child present

end FileSystem

namespace Project

/-- A directory that has grown by another file lists source files with the same
names. -/
theorem map_fst_filter_isSourceFile_of_grown
    (notSource : isSourceName name = false)
    {entries grownEntries : List (Name × Entry)}
    (isGrown : Entry.Grown name content (.directory entries)
      (.directory grownEntries)) :
    (grownEntries.filter isSourceFile).map Prod.fst =
      (entries.filter isSourceFile).map Prod.fst := by
  cases isGrown with
  | same => rfl
  | here absent => simp [isSourceFile, notSource]
  | @inside before after child inner grown isFirst innerGrown =>
      have sameKind : isSourceFile (child, grown) = isSourceFile (child, inner) := by
        simp [isSourceFile, innerGrown.isDirectory_eq]
      cases isSource : isSourceFile (child, inner) <;>
        simp [sameKind, isSource]

section Grown

variable
  (notSource : isSourceName name = false)
  {system next : FileSystem}
  (isGrown : FileSystem.Grown name content system next)
include notSource isGrown

/-- A directory has the same source files. -/
theorem directoryFiles_of_grown
    {directory : Path}
    (contained : system.contains directory = true) :
    directoryFiles next directory = directoryFiles system directory := by
  rw [directoryFiles, directoryFiles]
  rcases isGrown.readDirectory_cases contained with
    ⟨failure, before, after⟩ | ⟨entries, grownEntries, before, after, areGrown⟩
  · rw [before, after]
  · have sameNames := congrArg (List.map directory.child)
      (Entry.map_fst_sortByName_eq_of_perm
        (List.Perm.of_eq (map_fst_filter_isSourceFile_of_grown notSource areGrown)))
    rw [List.map_map, List.map_map] at sameNames
    rw [before, after]
    exact congrArg Except.ok sameNames

/-- The source files in a directory have the same texts. -/
theorem sameSources_of_grown (directory : Path) :
    SameSources system next directory := by
  intro paths listed path present
  obtain ⟨last, isSource, rfl⟩ := mem_directoryFiles listed present
  have isDirectory : system.isDirectory directory = true := by
    unfold directoryFiles at listed
    cases read : system.readDirectory directory with
    | error failure => simp [read] at listed
    | ok entries => exact FileSystem.isDirectory_of_readDirectory read
  refine isGrown.readText_child_eq isDirectory ?_
  rintro rfl
  simp [notSource] at isSource

end Grown

end Project

namespace Dependency

/-! ## Records -/

/-- A package declares the same records. -/
theorem packageRecords_of_grown
    (notSource : Project.isSourceName name = false)
    {system next : FileSystem}
    (isGrown : FileSystem.Grown name content system next)
    {directory : Path}
    (contained : system.contains directory = true)
    (package : String) :
    packageRecords next directory package =
      packageRecords system directory package := by
  rw [packageRecords, packageRecords, Project.scanDirectory_congr_of_files
    (Project.directoryFiles_of_grown notSource isGrown contained)
    (Project.sameSources_of_grown notSource isGrown directory)]

theorem scanPackage_of_grown
    (notSource : Project.isSourceName name = false)
    {system next : FileSystem}
    (isGrown : FileSystem.Grown name content system next)
    {directory : Path}
    (contained : system.contains directory = true)
    (cache : ScanCache)
    (package : String) :
    scanPackage next cache directory package =
      scanPackage system cache directory package := by
  rw [scanPackage, scanPackage,
    packageRecords_of_grown notSource isGrown contained]

/-! ## Locations -/

/-- A file is no directory with a version, and it does not matter what is in
one. -/
theorem highestVersion?_of_grown
    (segment : String)
    {entries grownEntries : List (Name × Entry)}
    (isGrown : Entry.Grown name content (.directory entries)
      (.directory grownEntries)) :
    highestVersion? segment grownEntries = highestVersion? segment entries := by
  apply highestVersion?_congr
  intro text
  cases isGrown with
  | same => rfl
  | here absent => simp [Entry.firstRead?, Entry.isDirectory]
  | @inside before after child inner grown isFirst innerGrown =>
      simp only [Entry.firstRead?, List.find?_append, List.find?_cons,
        innerGrown.isDirectory_eq]
      cases before.find? fun entry =>
        entry.2.isDirectory && entry.1.read == text <;> split <;> rfl

section Grown

variable
  {system next : FileSystem}
  (isGrown : FileSystem.Grown name content system next)
include isGrown

theorem versionedDirectory_of_grown
    {directory : Path}
    (contained : system.contains directory = true)
    (segment : String) :
    versionedDirectory next directory segment =
      versionedDirectory system directory segment := by
  rw [versionedDirectory, versionedDirectory]
  rcases isGrown.readDirectory_cases contained with
    ⟨failure, before, after⟩ | ⟨entries, grownEntries, before, after, areGrown⟩
  · rw [before, after]
  · rw [before, after]
    simp only [highestVersion?_of_grown segment areGrown]

theorem segmentDirectory_of_grown
    {directory : Path}
    (contained : system.contains directory = true)
    (segment : String) :
    segmentDirectory next directory segment =
      segmentDirectory system directory segment := by
  rw [segmentDirectory, segmentDirectory, isGrown.isDirectory_eq,
    versionedDirectory_of_grown isGrown contained]

omit isGrown in
/-- The directory for a segment is in the file system. -/
theorem contains_of_segmentDirectory
    {directory found : Path}
    {segment : String}
    (isFound : segmentDirectory system directory segment = .ok (some found)) :
    system.contains found = true := by
  unfold segmentDirectory at isFound
  split at isFound
  · rename_i isDirectory
    obtain rfl : directory.child segment = found := by simpa using isFound
    exact FileSystem.contains_of_isDirectory isDirectory
  · unfold versionedDirectory at isFound
    cases read : system.readDirectory directory with
    | error failure => simp [read] at isFound
    | ok entries =>
        simp only [read, Except.ok.injEq, Option.map_eq_some_iff] at isFound
        obtain ⟨best, isBest, rfl⟩ := isFound
        obtain ⟨version, -, isFirst⟩ := highestVersion?_eq_some_iff.mp isBest
        obtain ⟨inner, present, isVersioned⟩ := Entry.mem_of_firstRead? isFirst
        exact FileSystem.contains_child_of_mem read present
          (stepsToEntry_versioned isVersioned)

theorem deepestDirectory_of_grown
    {directory : Path}
    (contained : system.contains directory = true)
    (segments : List String) :
    deepestDirectory next directory segments =
      deepestDirectory system directory segments := by
  induction segments generalizing directory with
  | nil => rfl
  | cons segment segments inductionHypothesis =>
      rw [deepestDirectory, deepestDirectory,
        segmentDirectory_of_grown isGrown contained]
      rcases isFound : segmentDirectory system directory segment with
        error | _ | found
      · rfl
      · rfl
      · exact inductionHypothesis (contains_of_segmentDirectory isFound)

omit isGrown in
theorem contains_of_deepestDirectory
    {directory found : Path}
    (contained : system.contains directory = true)
    {segments : List String}
    (isFound : deepestDirectory system directory segments = .ok found) :
    system.contains found = true := by
  induction segments generalizing directory with
  | nil => exact Except.ok.inj isFound ▸ contained
  | cons segment segments inductionHypothesis =>
      rw [deepestDirectory] at isFound
      rcases isNext : segmentDirectory system directory segment with
        error | _ | middle
      · simp [isNext] at isFound
      · simp only [isNext, Except.ok.injEq] at isFound
        exact isFound ▸ contained
      · simp only [isNext] at isFound
        exact inductionHypothesis (contains_of_segmentDirectory isNext) isFound

theorem locateInCache_of_grown
    {cache : Path}
    (contained : system.contains cache = true)
    (importPath : String) :
    locateInCache next cache importPath =
      locateInCache system cache importPath := by
  unfold locateInCache
  cases segments (ImportPath.escape importPath) with
  | nil => rfl
  | cons first others =>
      simp only [segmentDirectory_of_grown isGrown contained]
      rcases isFound : segmentDirectory system cache first with
        error | _ | found
      · rfl
      · rfl
      · simp only [deepestDirectory_of_grown isGrown
          (contains_of_segmentDirectory isFound)]

omit isGrown in
/-- What is located in the module cache is in the file system. -/
theorem contains_of_locateInCache
    {cache directory : Path}
    {importPath : String}
    (located : locateInCache system cache importPath = .ok (some directory)) :
    system.contains directory = true := by
  unfold locateInCache at located
  split at located
  · cases located
  · split at located
    · cases located
    · cases located
    · rename_i isFirst
      split at located
      · cases located
      · rename_i isDeepest
        obtain rfl := Option.some.inj (Except.ok.inj located)
        exact contains_of_deepestDirectory
          (contains_of_segmentDirectory isFirst) isDeepest

/-- A package is located in the same directory. -/
theorem Resolver.locate_of_grown
    {resolver : Resolver}
    (cacheContained : ∀ cache ∈ resolver.moduleCache, system.contains cache = true)
    (importPath : String) :
    resolver.locate next importPath = resolver.locate system importPath := by
  unfold locate
  simp only [isGrown.isDirectory_eq]
  cases resolver.projectPart? importPath with
  | some rest => rfl
  | none =>
      cases cached : resolver.moduleCache with
      | none => rfl
      | some cache =>
          simp only [locateInCache_of_grown isGrown (cacheContained cache cached)]

omit isGrown in
/-- The directory of a package is in the file system. -/
theorem Resolver.contains_of_locate
    {resolver : Resolver}
    {importPath : String}
    {directory : Path}
    (located : resolver.locate system importPath = .ok (some directory)) :
    system.contains directory = true := by
  unfold locate at located
  split at located
  · simp only [Except.ok.injEq] at located
    split at located
    · rename_i isDirectory
      exact Option.some.inj located ▸ FileSystem.contains_of_isDirectory isDirectory
    · cases located
  · simp only at located
    split at located
    · rename_i isDirectory
      exact Option.some.inj (Except.ok.inj located) ▸
        FileSystem.contains_of_isDirectory isDirectory
    · split at located
      · cases located
      · exact contains_of_locateInCache located

end Grown

end Dependency
end EnvTags
