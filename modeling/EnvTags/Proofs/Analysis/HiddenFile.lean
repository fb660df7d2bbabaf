import EnvTags.Proofs.Analysis
import EnvTags.Proofs.Dependency.HiddenFile
import EnvTags.Proofs.Expansion.Confined
import EnvTags.Proofs.Project.HiddenFile

/-!
# Analyses beside a hidden file

An analysis gives the same after a file has been written that is hidden and no
source file. It scans the same files, and the records of the project and of its
dependencies lie in directories that were there before, which have the same
source files.
-/

namespace EnvTags

variable {name : Name} {content : Content}

namespace Entry

theorem sourceTextsAmong_append (left right : List (Name × Entry)) :
    sourceTextsAmong (left ++ right) =
      sourceTextsAmong left ++ sourceTextsAmong right := by
  induction left with
  | nil => rw [sourceTextsAmong, List.nil_append, List.nil_append]
  | cons child left inductionHypothesis =>
      rw [List.cons_append, sourceTextsAmong, sourceTextsAmong,
        inductionHypothesis, List.append_assoc]

/-- A tree that has grown by another file has the same source files. -/
theorem Grown.sourceTexts_eq
    (notSource : Project.isSourceName name = false)
    {entry grown : Entry}
    (isGrown : Grown name content entry grown)
    (label : Name) :
    sourceTexts label grown = sourceTexts label entry := by
  induction isGrown generalizing label with
  | same entry => rfl
  | here absent =>
      have noTexts : sourceTexts name (file content) = [] := by
        cases content <;> simp [sourceTexts, notSource]
      rw [sourceTexts, sourceTexts, sourceTextsAmong_append, sourceTextsAmong,
        sourceTextsAmong, noTexts]
      simp
  | inside isFirst isGrown inductionHypothesis =>
      simp [sourceTexts, sourceTextsAmong_append, sourceTextsAmong,
        inductionHypothesis]

end Entry

namespace Expansion

/-- The bound on the depth of an expansion depends on what all source files
declare. -/
theorem keyCount_of_grown
    (notSource : Project.isSourceName name = false)
    {setting : Setting}
    {next : FileSystem}
    (isGrown : FileSystem.Grown name content setting.system next)
    (state : State)
    (roots : List Record) :
    keyCount { setting with system := next } state roots =
      keyCount setting state roots := by
  have sameDeclarations : allDeclarations next =
      allDeclarations setting.system := by
    rw [allDeclarations, allDeclarations, isGrown.root.sourceTexts_eq notSource]
  simp only [keyCount, keyPackages, keyNames, knownRecords, sameDeclarations]

/-- The record of a source file in a directory has a directory in the file
system. -/
theorem contains_directory_of_child
    {system : FileSystem}
    {record : Record}
    {base : Path}
    (nonempty : base ≠ Path.empty)
    {last : Name}
    (isSource : Project.isSourceName last = true)
    (isChild : record.file = base.child last)
    {declared : Go.Declarations}
    (declares : Project.Declares system record.file declared) :
    system.contains record.directory = true := by
  obtain ⟨source, tree, read, -⟩ := declares
  rw [isChild] at read
  have isDirectory := FileSystem.isDirectory_of_readText_child nonempty read
  obtain ⟨parent, isParent, same⟩ := Path.components_parent?_child base
    (Project.stepsToEntry_of_isSourceName isSource)
  have isOwn : record.directory = parent := by
    rw [Record.directory, isChild, isParent, Option.getD_some]
  obtain ⟨entries, found⟩ := FileSystem.exists_directory_of_isDirectory isDirectory
  rw [FileSystem.contains, isOwn,
    FileSystem.entry_eq_of_isDirectory same.symm isDirectory, found]

/-- The directories of all records that an expansion meets are in the file
system. -/
def Invariant.contained
    {setting : Setting}
    (graphContained : ∀ record ∈ setting.graph.records,
      setting.system.contains record.directory = true) :
    Invariant setting where
  ofRecord record := setting.system.contains record.directory = true
  ofFound _ record := setting.system.contains record.directory = true
  ofScan directory _ := setting.system.contains directory = true
  graph_ofRecord := graphContained
  found_ofRecord _ _ := id
  own_ofScan _ := id
  imported_ofScan _ _ _ _ _ := Dependency.Resolver.contains_of_locate
  scan_ofFound := by
    intro directory package records contained read record present
    obtain ⟨-, last, declared, isSource, isChild, declares, -⟩ :=
      Dependency.mem_packageRecords read present
    exact contains_directory_of_child
      (FileSystem.ne_empty_of_contains contained) isSource isChild declares

end Expansion

namespace Project

/-- The records of a project whose root is a directory have directories in the
file system. -/
theorem contains_directory_of_scan
    {system : FileSystem}
    {root : Path}
    (isDirectory : system.isDirectory root = true)
    {modulePath : String}
    {exclusions : Exclusions}
    {files : List SourceFile}
    (scanned : scan system root modulePath exclusions = .ok files)
    {record : Record}
    (present : record ∈ files.flatMap SourceFile.records) :
    system.contains record.directory = true := by
  obtain ⟨paths, listed, read⟩ := scan_eq_ok_iff.mp scanned
  obtain ⟨inPaths, declared, declares, -⟩ := mem_records_of_scanFiles read present
  obtain ⟨names, last, isChild, -, isSource⟩ :=
    exists_child_of_mem_sourceFiles isDirectory listed inPaths
  have nonempty := FileSystem.ne_empty_of_contains
    (FileSystem.contains_of_isDirectory isDirectory)
  exact Expansion.contains_directory_of_child
    (pathBelow_ne_empty_of_ne_empty nonempty names) isSource isChild declares

end Project

namespace Analysis

section Grown

variable
  (isHidden : Project.Exclusions.isHidden name = true)
  (notSource : Project.isSourceName name = false)
  {system next : FileSystem}
  (isGrown : FileSystem.Grown name content system next)
include notSource isGrown

/-- The roots of a graph give the same if the directories of its records were
there before. -/
theorem expandRoots_of_grown
    (setting : Expansion.Setting)
    (isSystem : setting.system = system)
    (graphContained : ∀ record ∈ setting.graph.records,
      system.contains record.directory = true)
    (cacheContained : ∀ cache ∈ setting.resolver.moduleCache,
      system.contains cache = true) :
    expandRoots { setting with system := next }
        (setting.graph.roots setting.scheme) =
      expandRoots setting (setting.graph.roots setting.scheme) := by
  subst isSystem
  have confines := (Expansion.Invariant.contained graphContained).confines_of_scans
    (Dependency.Resolver.locate_of_grown isGrown cacheContained)
    fun cache directory package allowed =>
      Dependency.scanPackage_of_grown notSource isGrown allowed cache package
  rw [expandRoots, expandRoots, Expansion.keyCount_of_grown notSource isGrown]
  refine confines.expandAll_eq _ ?_ (by simp [Expansion.Invariant.OfCache])
  intro record isRoot
  exact graphContained record ((setting.graph.sublist_roots _).subset isRoot)

include isHidden in
/-- An analysis gives the same after a hidden file has been written, if its root
is a directory or nothing at all, its module cache was there before, and the
manifest has the same text. -/
theorem run_of_grown
    {request : Request}
    (walkable : request.root = Path.empty ∨
      system.isDirectory request.root = true)
    (cacheContained : ∀ cache ∈ request.moduleCache,
      system.contains cache = true)
    (sameManifest : next.readText (Project.manifestPath request.root) =
      system.readText (Project.manifestPath request.root)) :
    run next request = run system request := by
  have sameModulePath : Project.modulePath next request.root =
      Project.modulePath system request.root := by
    refine Project.modulePath_congr ?_
    simpa [FileSystem.SameTexts] using sameManifest
  rw [run, run, sameModulePath]
  cases Project.modulePath system request.root with
  | error error => rfl
  | ok modulePath =>
      simp only
      rcases walkable with isEmpty | isDirectory
      · simp [Project.scan, Project.sourceFiles, isEmpty, FileSystem.entry,
          FileSystem.locate]
      · rw [Project.scan_of_grown isHidden isGrown isDirectory]
        cases scanned : Project.scan system request.root modulePath
            request.exclusions with
        | error error => rfl
        | ok files =>
            have graphContained : ∀ record ∈ (Graph.ofFiles files).records,
                system.contains record.directory = true := by
              intro record inGraph
              exact Project.contains_directory_of_scan isDirectory scanned
                (Graph.mem_of_mem_records_ofFiles inGraph)
            have sameRoots : expandRoots (request.setting next modulePath files)
                  ((Graph.ofFiles files).roots request.config.scheme) =
                expandRoots (request.setting system modulePath files)
                  ((Graph.ofFiles files).roots request.config.scheme) :=
              expandRoots_of_grown notSource isGrown
                (request.setting system modulePath files) rfl graphContained
                cacheContained
            simp only [ofFiles, Request.setting] at sameRoots ⊢
            rw [sameRoots]

end Grown

end Analysis
end EnvTags
