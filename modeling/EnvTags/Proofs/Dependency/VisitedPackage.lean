import EnvTags.Proofs.Dependency.ProjectDirectory
import EnvTags.Proofs.Dependency.ScanCache
import EnvTags.Proofs.Project.Walk
import Mathlib.Data.List.Find

/-!
# The two ways to a record of the project

A record of the project is in the graph, which comes from a walk through the whole
project, and it is found when its own directory is scanned. Both ways take the
first declaration with each name, from source files in the order of their names,
so they find the same record. A directory has the same records, however its path
is written and for whatever package it is scanned.
-/

namespace EnvTags

namespace Record

/-- The record as it is scanned in a directory, for a package. -/
def asIn (directory : Path) (package : String) (record : Record) : Record :=
  { record with
    file := directory.child (record.file.fileName?.getD "")
    package := package }

/-- The first records are the same after a change that keeps the marks. -/
theorem firstBy_map
    [DecidableEq κ]
    {mark : Record → κ}
    {change : Record → Record}
    (kept : ∀ record, mark (change record) = mark record)
    (records : List Record) :
    firstBy mark (records.map change) = (firstBy mark records).map change := by
  induction records with
  | nil => rfl
  | cons record records inductionHypothesis =>
      simp only [List.map_cons, firstBy, inductionHypothesis, List.filter_map,
        kept]
      congr 2
      apply List.filter_congr
      intro other _
      simp [kept]

end Record

namespace Project

variable {system : FileSystem} {scope : Scope}

/-- The files at some of the paths are scanned like all of them. -/
theorem scanFiles_filter
    {paths : List Path}
    {files : List SourceFile}
    (scanned : scanFiles system scope paths = .ok files)
    (keeps : Path → Bool) :
    scanFiles system scope (paths.filter keeps) =
      .ok (files.filter fun file => keeps file.path) := by
  induction paths generalizing files with
  | nil =>
      obtain rfl := Except.ok.inj scanned
      rfl
  | cons path paths inductionHypothesis =>
      obtain ⟨file, others, first, rest, rfl⟩ :=
        scanFiles_cons_eq_ok_iff.mp scanned
      have later := inductionHypothesis rest
      obtain ⟨declared, -, rfl⟩ := scanFile_eq_ok_iff.mp first
      cases kept : keeps path with
      | false =>
          rw [List.filter_cons_of_neg (by simp [kept]), later,
            List.filter_cons_of_neg (by simp [sourceFile, kept])]
      | true =>
          rw [List.filter_cons_of_pos kept,
            List.filter_cons_of_pos (by simp [sourceFile, kept])]
          exact scanFiles_cons_eq_ok_iff.mpr ⟨_, _, first, later, rfl⟩

/-- Files of one package are scanned like those of a dependency with that
package. -/
theorem scanFiles_fixed
    {paths : List Path}
    {files : List SourceFile}
    (scanned : scanFiles system scope paths = .ok files)
    {package : String}
    (samePackage : ∀ file ∈ files, file.package = package) :
    scanFiles system (.fixed package) paths = .ok files := by
  induction paths generalizing files with
  | nil => exact scanned
  | cons path paths inductionHypothesis =>
      obtain ⟨file, others, first, rest, rfl⟩ :=
        scanFiles_cons_eq_ok_iff.mp scanned
      obtain ⟨here, later⟩ := List.forall_mem_cons.mp samePackage
      obtain ⟨declared, declares, rfl⟩ := scanFile_eq_ok_iff.mp first
      have fixed : scanFile system (.fixed package) path =
          .ok (sourceFile scope path declared) := by
        refine scanFile_eq_ok_iff.mpr ⟨declared, declares, ?_⟩
        change scope.identity path declared.packageName = package at here
        rw [sourceFile, sourceFile, here]
        rfl
      exact scanFiles_cons_eq_ok_iff.mpr
        ⟨_, _, fixed, inductionHypothesis rest later, rfl⟩

/-- The records of a scanned file have its package. -/
theorem package_eq_of_mem_records
    {path : Path}
    {file : SourceFile}
    (scanned : scanFile system scope path = .ok file)
    {record : Record}
    (present : record ∈ file.records) :
    record.package = file.package := by
  obtain ⟨declared, -, rfl⟩ := scanFile_eq_ok_iff.mp scanned
  obtain ⟨struct, -, rfl⟩ := List.mem_map.mp present
  rfl

end Project

namespace Graph

/-- A record of the graph is the first with its name in the files of its
package. -/
theorem find?_ofFiles
    {files : List SourceFile}
    (samePackage : ∀ file ∈ files, ∀ record ∈ file.records,
      record.package = file.package)
    (package name : String) :
    (ofFiles files).find? ⟨package, name⟩ =
      ((files.filter fun file => file.package = package).flatMap
        SourceFile.records).find? fun record => record.name = name := by
  rw [ofFiles, find?_ofRecords]
  induction files with
  | nil => rfl
  | cons file files inductionHypothesis =>
      obtain ⟨here, later⟩ := List.forall_mem_cons.mp samePackage
      rw [List.flatMap_cons, List.find?_append, inductionHypothesis later,
        List.filter_cons]
      by_cases isPackage : file.package = package
      · have sameTest : file.records.find?
              (fun record => record.key = ⟨package, name⟩) =
            file.records.find? fun record => record.name = name := by
          apply List.find?_congr
          intro record present
          simp [Record.key, here record present, isPackage]
        rw [if_pos (by simpa using isPackage), List.flatMap_cons,
          List.find?_append, sameTest]
      · have noneHere : file.records.find?
            (fun record => record.key = ⟨package, name⟩) = none := by
          rw [List.find?_eq_none]
          intro record present
          simp [Record.key, here record present, isPackage]
        rw [if_neg (by simpa using isPackage), noneHere, Option.none_or]

end Graph

namespace Dependency

/-- A directory has the same records, however its path is written and for
whatever package it is scanned. -/
theorem packageRecords_eq_map_asIn
    {system : FileSystem}
    {left right : Path}
    (same : left.components = right.components)
    {package : String}
    {records : List Record}
    (read : packageRecords system left package = .ok records)
    (other : String) :
    packageRecords system right other =
      .ok (records.map (Record.asIn right other)) := by
  obtain ⟨entries, files, listed, permuted, inOrder, allDeclare, rfl⟩ :=
    packageRecords_eq_ok_iff.mp read
  have leftIsDirectory : system.isDirectory left = true :=
    FileSystem.isDirectory_of_readDirectory listed
  have sameEntry := FileSystem.entry_eq_of_isDirectory same leftIsDirectory
  have rightIsDirectory : system.isDirectory right = true := by
    rw [FileSystem.isDirectory, sameEntry]
    exact leftIsDirectory
  have steps : ∀ file ∈ files, Path.StepsToEntry file.1 := by
    intro file inside
    obtain ⟨entry, isSource, sameName⟩ := List.mem_map.mp
      (permuted.subset (List.mem_map_of_mem inside))
    rw [List.mem_filter, Project.isSourceFile, Bool.and_eq_true] at isSource
    exact sameName ▸ Project.stepsToEntry_of_isSourceName isSource.2.2
  refine packageRecords_eq_ok_iff.mpr
    ⟨entries, files, ?_, permuted, inOrder, ?_, ?_⟩
  · rw [FileSystem.readDirectory, sameEntry]
    exact listed
  · intro file inside
    obtain ⟨source, tree, read, parsed⟩ := allDeclare file inside
    rw [FileSystem.readText_child_eq_of_components_eq same leftIsDirectory
      rightIsDirectory (steps file inside)] at read
    exact ⟨source, tree, read, parsed⟩
  · have sameName : ∀ record : Record,
        (record.asIn right other).name = record.name := fun _ => rfl
    rw [← Record.firstBy_eq_firstOccurrences,
      ← Record.firstBy_eq_firstOccurrences, ← Record.firstBy_map sameName,
      List.map_flatMap]
    congr 1
    apply List.flatMap_congr
    intro file inside
    simp [Project.sourceFile, Record.asIn, Project.Scope.identity,
      Path.fileName?_child left (steps file inside)]

/-- The record has the same file, however the path of the directory is
written. -/
theorem components_file_asIn
    {system : FileSystem}
    {left right : Path}
    (same : left.components = right.components)
    {package : String}
    {records : List Record}
    (read : packageRecords system left package = .ok records)
    {record : Record}
    (present : record ∈ records)
    (other : String) :
    (record.asIn right other).file.components = record.file.components := by
  obtain ⟨-, name, -, isSource, isChild, -⟩ := mem_packageRecords read present
  have steps := Project.stepsToEntry_of_isSourceName isSource
  rw [Record.asIn, isChild, Path.fileName?_child left steps, Option.getD_some,
    Path.components_child right steps, Path.components_child left steps, same]

end Dependency

/-! ## Packages of a project -/

namespace Project

/-- A package of a scanned project, in a directory below the root that the walk
visits. No pattern is ignored, and the source files of the directory are neither
hidden nor in main packages. The names that lead to the directory are not read like
those that lead to another one. -/
structure VisitedPackage
    (system : FileSystem)
    (root : Path)
    (modulePath : String)
    (files : List SourceFile) where
  /-- The vendor directory, which is left out. -/
  vendorDirectory : String
  /-- The entries of the root. -/
  rootEntries : List (Name × Entry)
  /-- The names that lead to the directory. -/
  names : List Name
  /-- The entries of the directory. -/
  entries : List (Name × Entry)
  /-- The files are those of the project. -/
  scanned : scan system root modulePath ⟨vendorDirectory, []⟩ = .ok files
  /-- The root is a directory. -/
  atRoot : system.entry root = .ok (.directory rootEntries)
  /-- The walk comes to the directory. -/
  visited : Visited ⟨vendorDirectory, []⟩ rootEntries names entries
  /-- The directory is not the root. -/
  isBelow : names ≠ []
  /-- No source file of the directory is hidden. -/
  visible : ∀ child ∈ entries, isSourceFile child = true →
    Exclusions.isHidden child.1 = false
  /-- No source file of the directory declares a main package. -/
  notMain : ∀ child ∈ entries, isSourceFile child = true →
    isMainFile system ((pathBelow root names).child child.1) = false
  /-- No other directory that is read alike has a file that is not in a main
  package. -/
  isAlone : ∀ file ∈ files, isMainFile system file.path = false →
    (namesBelow root file.path).map Name.read = names.map Name.read →
    namesBelow root file.path = names

namespace VisitedPackage

variable
  {system : FileSystem}
  {root : Path}
  {modulePath : String}
  {files : List SourceFile}

/-- The directory of the package. -/
def directory (own : VisitedPackage system root modulePath files) : Path :=
  pathBelow root own.names

/-- The identity of the package. -/
def package (own : VisitedPackage system root modulePath files) : String :=
  ImportPath.join modulePath own.names

variable
  (wellNamed : system.isWellNamed = true)
  (own : VisitedPackage system root modulePath files)
include wellNamed

theorem areNames : ∀ name ∈ own.names, Path.IsEntryName name :=
  (own.visited.areNames
    (FileSystem.isWellNamed_of_entry wellNamed own.atRoot)).1

theorem entry_directory (distinct : system.hasDistinctNames = true) :
    system.entry own.directory = .ok (.directory own.entries) :=
  own.visited.entry_eq (FileSystem.isWellNamed_of_entry wellNamed own.atRoot)
    (FileSystem.hasDistinctNames_of_entry distinct own.atRoot) own.atRoot

/-- The source files of the project in the directory are those that the directory
lists. -/
theorem directoryFiles_eq
    (distinct : system.hasDistinctNames = true)
    {paths : List Path}
    (listed : sourceFiles system root ⟨own.vendorDirectory, []⟩ = .ok paths) :
    directoryFiles system own.directory =
      .ok (paths.filter fun path => namesBelow root path = own.names) := by
  have rootNamed := FileSystem.isWellNamed_of_entry wellNamed own.atRoot
  have rootDistinct := FileSystem.hasDistinctNames_of_entry distinct own.atRoot
  have rows := own.visited.filter_dropLast rootNamed rootDistinct rfl own.visible
  rw [sourceFiles, own.atRoot] at listed
  simp only [Entry.sorted_directory, filesOf, Except.ok.injEq] at listed
  have inDirectory :
      ∀ row ∈ filesAmong ⟨own.vendorDirectory, []⟩ []
        (Entry.walked own.rootEntries),
      namesBelow root (pathBelow root row) = row.dropLast := by
    intro row present
    obtain ⟨first, below, rfl, areNames⟩ := mem_filesAmong _
      (Entry.areWellNamed_walked rootNamed) present
    rw [List.nil_append]
    obtain ⟨directories, name, split⟩ :
        ∃ directories name, first :: below = directories ++ [name] :=
      ⟨_, _, (List.dropLast_concat_getLast (by simp)).symm⟩
    rw [split] at areNames ⊢
    rw [(liesBelow_pathBelow root areNames).namesBelow_eq, List.dropLast_concat]
  have kept : (filesAmong ⟨own.vendorDirectory, []⟩ []
        (Entry.walked own.rootEntries)).filter
          ((fun path => decide (namesBelow root path = own.names)) ∘
            pathBelow root) =
      (filesAmong ⟨own.vendorDirectory, []⟩ []
        (Entry.walked own.rootEntries)).filter
          fun row => row.dropLast = own.names := by
    apply List.filter_congr
    intro row present
    simp [inDirectory row present]
  rw [directoryFiles, FileSystem.readDirectory,
    own.entry_directory wellNamed distinct]
  simp only
  rw [← listed, List.filter_map, kept, rows, List.map_map]
  congr 1
  apply List.map_congr_left
  intro child _
  exact (pathBelow_concat root own.names child.1).symm

/-- The files of the directory are not in main packages. -/
theorem isMainFile_eq_false
    (distinct : system.hasDistinctNames = true)
    {file : SourceFile}
    (present : file ∈ files)
    (inDirectory : namesBelow root file.path = own.names) :
    isMainFile system file.path = false := by
  obtain ⟨paths, listed, scanned⟩ := scan_eq_ok_iff.mp own.scanned
  obtain ⟨path, inPaths, read⟩ := exists_scanFile_of_mem scanned present
  obtain ⟨declared, -, rfl⟩ := scanFile_eq_ok_iff.mp read
  have inListing := own.directoryFiles_eq wellNamed distinct listed
  rw [directoryFiles, FileSystem.readDirectory,
    own.entry_directory wellNamed distinct] at inListing
  have isListed : path ∈ paths.filter fun path =>
      namesBelow root path = own.names :=
    List.mem_filter.mpr ⟨inPaths, decide_eq_true_eq.mpr inDirectory⟩
  rw [← Except.ok.inj inListing] at isListed
  obtain ⟨child, inEntries, isChild⟩ := List.mem_map.mp isListed
  rw [Entry.mem_sortByName, List.mem_filter] at inEntries
  exact isChild ▸ own.notMain child inEntries.1 inEntries.2

/-- The files of the package are those in its directory. -/
theorem package_eq_iff
    (distinct : system.hasDistinctNames = true)
    {file : SourceFile}
    (present : file ∈ files) :
    file.package = own.package ↔ namesBelow root file.path = own.names := by
  obtain ⟨names, name, areNames, isPath, -, isPackage⟩ :=
    exists_names_of_mem_scan wellNamed own.atRoot own.scanned present
  have below := liesBelow_pathBelow root areNames
  rw [← isPath] at below
  rw [below.namesBelow_eq, isPackage]
  constructor
  · intro samePackage
    split at samePackage
    · have atRoot := (ImportPath.join_eq_modulePath_iff
        (own.areNames wellNamed)).mp samePackage.symm
      exact absurd atRoot.1 own.isBelow
    · rename_i notMain
      have readAlike := (ImportPath.join_eq_join_iff below.1
        (own.areNames wellNamed)).mp samePackage
      rw [← below.namesBelow_eq] at readAlike ⊢
      exact own.isAlone file present (by simpa using notMain) readAlike
  · rintro rfl
    rw [own.isMainFile_eq_false wellNamed distinct present below.namesBelow_eq]
    rfl

/-- A scan of the directory for the package reads the files of the package. -/
theorem scanDirectory_eq (distinct : system.hasDistinctNames = true) :
    scanDirectory system (.fixed own.package) own.directory =
      .ok (files.filter fun file => file.package = own.package) := by
  obtain ⟨paths, listed, scanned⟩ := scan_eq_ok_iff.mp own.scanned
  have sameFiles : (files.filter fun file => file.package = own.package) =
      files.filter fun file => namesBelow root file.path = own.names := by
    apply List.filter_congr
    intro file present
    simp only [own.package_eq_iff wellNamed distinct present]
  have ofDirectory := scanFiles_filter scanned fun path =>
    namesBelow root path = own.names
  rw [← sameFiles] at ofDirectory
  rw [scanDirectory, own.directoryFiles_eq wellNamed distinct listed]
  refine scanFiles_fixed ofDirectory ?_
  intro file inside
  exact of_decide_eq_true (List.mem_filter.mp inside).2

/-- A scan of the directory finds the records that the graph has. -/
theorem exists_packageRecords (distinct : system.hasDistinctNames = true) :
    ∃ records,
      Dependency.packageRecords system own.directory own.package =
          .ok records ∧
        (records.map Record.name).Nodup ∧
        ∀ name, (records.find? fun record => record.name = name) =
          (Graph.ofFiles files).find? ⟨own.package, name⟩ := by
  have read : Dependency.packageRecords system own.directory own.package =
      .ok (Record.firstBy Record.name
        ((files.filter fun file => file.package = own.package).flatMap
          SourceFile.records)) := by
    rw [Dependency.packageRecords, own.scanDirectory_eq wellNamed distinct]
  refine ⟨_, read, Record.nodup_map_firstBy _ _, ?_⟩
  intro name
  rw [Record.find?_firstBy, Graph.find?_ofFiles]
  intro file present record inFile
  obtain ⟨paths, -, scanned⟩ := scan_eq_ok_iff.mp own.scanned
  obtain ⟨path, -, isScanned⟩ := exists_scanFile_of_mem scanned present
  exact package_eq_of_mem_records isScanned inFile

/-- However the path of the directory is written and for whatever package it is
scanned, what is found in it is in the graph. -/
theorem find?_ne_none_of_mem
    (distinct : system.hasDistinctNames = true)
    {directory : Path}
    (same : directory.components = own.directory.components)
    {package : String}
    {records : List Record}
    (read : Dependency.packageRecords system directory package = .ok records)
    {record : Record}
    (present : record ∈ records) :
    (Graph.ofFiles files).find? ⟨own.package, record.name⟩ ≠ none := by
  obtain ⟨originals, readOwn, -, sameLookup⟩ :=
    own.exists_packageRecords wellNamed distinct
  rw [Dependency.packageRecords_eq_map_asIn same.symm readOwn package] at read
  obtain rfl := Except.ok.inj read
  obtain ⟨original, inOriginals, rfl⟩ := List.mem_map.mp present
  rw [← sameLookup, ne_eq, List.find?_eq_none, not_forall]
  exact ⟨original, by simp [inOriginals, Record.asIn]⟩

/-- The directory is scanned for its package into the records that the graph
has. -/
theorem exists_records
    (distinct : system.hasDistinctNames = true)
    {directory : Path}
    (same : directory.components = own.directory.components)
    {cache : Dependency.ScanCache}
    (unscanned : cache.records? directory = none) :
    ∃ records,
      Dependency.scanPackage system cache directory own.package =
          (.ok records, (directory.components, records) :: cache) ∧
        ∀ name,
          ((Graph.ofFiles files).find? ⟨own.package, name⟩ ≠ none ↔
            ∃ record ∈ records, record.name = name) ∧
          ∀ found, (Graph.ofFiles files).find? ⟨own.package, name⟩ = some found →
            ∀ record ∈ records, record.name = name →
              record.file.components = found.file.components ∧
                record.fields = found.fields ∧
                record.imports = found.imports ∧
                record.key = found.key := by
  obtain ⟨originals, readOwn, differ, sameLookup⟩ :=
    own.exists_packageRecords wellNamed distinct
  have read := Dependency.packageRecords_eq_map_asIn same.symm readOwn
    own.package
  refine ⟨originals.map (Record.asIn directory own.package), ?_, ?_⟩
  · rw [Dependency.scanPackage, unscanned, read]
  · intro name
    rw [← sameLookup]
    constructor
    · rw [ne_eq, List.find?_eq_none]
      simp [Record.asIn]
    · rintro found isFound record present rfl
      obtain ⟨original, inOriginals, rfl⟩ := List.mem_map.mp present
      have inFound := List.mem_of_find?_eq_some isFound
      -- The names are different, so the record that is found is the original.
      obtain rfl : original = found := by
        have sameName := List.find?_some isFound
        rw [decide_eq_true_eq] at sameName
        exact List.inj_on_of_nodup_map differ inOriginals inFound sameName.symm
      obtain ⟨isPackage, -⟩ := Dependency.mem_packageRecords readOwn inFound
      refine ⟨?_, rfl, rfl, ?_⟩
      · exact Dependency.components_file_asIn same.symm readOwn inFound _
      · rw [Record.key, Record.key, isPackage]
        rfl

end VisitedPackage
end Project
end EnvTags
