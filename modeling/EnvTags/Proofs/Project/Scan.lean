import EnvTags.Dependency.Resolver
import EnvTags.Proofs.FileSystem.Names
import EnvTags.Proofs.Record

/-!
# What a scan reads

Every file that a scan answers was read from its path and parsed, and its records
are the structs declared there. The files of a directory have the names of source
files. A scan fails only because a file cannot be read or parsed.
-/

namespace EnvTags

namespace Project

/-- The name of a source file leads to an entry. -/
theorem stepsToEntry_of_isSourceName
    {name : Name}
    (isSource : isSourceName name = true) :
    Path.StepsToEntry name := by
  have different : ∀ other, isSourceName other = false → name ≠ other := by
    rintro other notSource rfl
    simp [notSource] at isSource
  exact Path.stepsToEntry_iff.mpr ⟨different "" (by decide +kernel),
    different "." (by decide +kernel), different ".." (by decide +kernel)⟩

/-! ## Files -/

/-- The file at a path can be read and parsed, and declares what is given. -/
def Declares
    (system : FileSystem)
    (path : Path)
    (declared : Go.Declarations) : Prop :=
  ∃ source tree, system.readText path = .ok source ∧
    Go.parse source = some tree ∧ declared = Go.Declarations.ofTree tree

/-- A file is scanned by what it declares. -/
theorem scanFile_eq_ok_iff
    {system : FileSystem}
    {scope : Scope}
    {path : Path}
    {file : SourceFile} :
    scanFile system scope path = .ok file ↔
      ∃ declared, Declares system path declared ∧
        file = sourceFile scope path declared := by
  unfold scanFile
  constructor
  · intro scanned
    cases read : system.readText path with
    | error failure => simp [read] at scanned
    | ok source =>
        cases parsed : Go.parse source with
        | none => simp [read, parsed] at scanned
        | some tree =>
            simp only [read, parsed, Except.ok.injEq] at scanned
            exact ⟨.ofTree tree, ⟨source, tree, read, parsed, rfl⟩,
              scanned.symm⟩
  · rintro ⟨declared, ⟨source, tree, read, parsed, rfl⟩, rfl⟩
    simp [read, parsed]

/-- Paths are scanned one after the other. -/
theorem scanFiles_cons_eq_ok_iff
    {system : FileSystem}
    {scope : Scope}
    {path : Path}
    {paths : List Path}
    {files : List SourceFile} :
    scanFiles system scope (path :: paths) = .ok files ↔
      ∃ file others, scanFile system scope path = .ok file ∧
        scanFiles system scope paths = .ok others ∧ files = file :: others := by
  rw [scanFiles]
  cases scanFile system scope path with
  | error error => simp
  | ok file =>
      cases scanFiles system scope paths with
      | error error => simp
      | ok others => simp [eq_comm]

/-- Every file of a scan is scanned at one of the paths. -/
theorem exists_scanFile_of_mem
    {system : FileSystem}
    {scope : Scope}
    {paths : List Path}
    {files : List SourceFile}
    (scanned : scanFiles system scope paths = .ok files)
    {file : SourceFile}
    (present : file ∈ files) :
    ∃ path ∈ paths, scanFile system scope path = .ok file := by
  induction paths generalizing files with
  | nil =>
      simp only [scanFiles, Except.ok.injEq] at scanned
      simp [← scanned] at present
  | cons path paths inductionHypothesis =>
      obtain ⟨read, others, first, rest, rfl⟩ :=
        scanFiles_cons_eq_ok_iff.mp scanned
      rcases List.mem_cons.mp present with rfl | later
      · exact ⟨path, List.mem_cons_self, first⟩
      · obtain ⟨other, inPaths, isOther⟩ := inductionHypothesis rest later
        exact ⟨other, List.mem_cons_of_mem _ inPaths, isOther⟩

/-- A record comes from a file of the scan and from a struct declared there. -/
theorem mem_records_of_scanFiles
    {system : FileSystem}
    {scope : Scope}
    {paths : List Path}
    {files : List SourceFile}
    (scanned : scanFiles system scope paths = .ok files)
    {record : Record}
    (present : record ∈ files.flatMap SourceFile.records) :
    record.file ∈ paths ∧
      ∃ declared, Declares system record.file declared ∧
        record.package = scope.identity record.file declared.packageName ∧
        record.imports = declared.imports ∧
        ∃ struct ∈ declared.structs,
          record.name = struct.name ∧ record.fields = struct.fields := by
  obtain ⟨file, inFiles, inFile⟩ := List.mem_flatMap.mp present
  obtain ⟨path, inPaths, read⟩ := exists_scanFile_of_mem scanned inFiles
  obtain ⟨declared, declares, rfl⟩ := scanFile_eq_ok_iff.mp read
  obtain ⟨struct, inStructs, rfl⟩ := List.mem_map.mp inFile
  exact ⟨inPaths, declared, declares, rfl, rfl, struct, inStructs, rfl, rfl⟩

/-- A project is scanned at the paths of its source files. -/
theorem scan_eq_ok_iff
    {system : FileSystem}
    {root : Path}
    {modulePath : String}
    {exclusions : Exclusions}
    {files : List SourceFile} :
    scan system root modulePath exclusions = .ok files ↔
      ∃ paths, sourceFiles system root exclusions = .ok paths ∧
        scanFiles system (.project root modulePath) paths = .ok files := by
  unfold scan
  cases sourceFiles system root exclusions <;> simp

/-- The source files of a directory have the names of source files. -/
theorem mem_directoryFiles
    {system : FileSystem}
    {directory : Path}
    {paths : List Path}
    (listed : directoryFiles system directory = .ok paths)
    {path : Path}
    (present : path ∈ paths) :
    ∃ name, isSourceName name = true ∧ path = directory.child name := by
  unfold directoryFiles at listed
  cases read : system.readDirectory directory with
  | error failure => simp [read] at listed
  | ok entries =>
      simp only [read, Except.ok.injEq] at listed
      subst listed
      obtain ⟨entry, inEntries, rfl⟩ := List.mem_map.mp present
      rw [Entry.mem_sortByName, List.mem_filter, isSourceFile,
        Bool.and_eq_true] at inEntries
      exact ⟨entry.1, inEntries.2.2, rfl⟩

end Project

namespace Dependency

/-- The records of a package come from structs of source files in its
directory. -/
theorem mem_packageRecords
    {system : FileSystem}
    {directory : Path}
    {package : String}
    {records : List Record}
    (read : packageRecords system directory package = .ok records)
    {record : Record}
    (present : record ∈ records) :
    record.package = package ∧
      ∃ name declared, Project.isSourceName name = true ∧
        record.file = directory.child name ∧
        Project.Declares system record.file declared ∧
        record.imports = declared.imports ∧
        ∃ struct ∈ declared.structs, record.name = struct.name := by
  unfold packageRecords Project.scanDirectory at read
  cases listed : Project.directoryFiles system directory with
  | error error => simp [listed] at read
  | ok paths =>
      cases scanned : Project.scanFiles system (.fixed package) paths with
      | error error => simp [listed, scanned] at read
      | ok files =>
          simp only [listed, scanned, Except.ok.injEq] at read
          subst read
          obtain ⟨inPaths, declared, declares, identity, imports, struct,
              inStructs, sameName, -⟩ :=
            Project.mem_records_of_scanFiles scanned
              (Record.mem_of_mem_firstBy present)
          obtain ⟨name, isSource, child⟩ :=
            Project.mem_directoryFiles listed inPaths
          exact ⟨identity, name, declared, isSource, child, declares, imports,
            struct, inStructs, sameName⟩

/-- The records of a package lie in its directory. -/
theorem directory_of_mem_packageRecords
    {system : FileSystem}
    {directory : Path}
    {package : String}
    {records : List Record}
    (read : packageRecords system directory package = .ok records)
    {record : Record}
    (present : record ∈ records) :
    record.directory.components = directory.components := by
  obtain ⟨-, name, -, isSource, child, -⟩ := mem_packageRecords read present
  obtain ⟨parent, isParent, same⟩ := Path.components_parent?_child directory
    (Project.stepsToEntry_of_isSourceName isSource)
  simp [Record.directory, child, isParent, same]

end Dependency
end EnvTags
