import EnvTags.Analysis
import EnvTags.Proofs.Expansion.Depth
import EnvTags.Proofs.Project.Identity

/-!
# Whole analyses

An analysis expands the roots of a graph one after the other, and the bound it
computes for them is never reached. A project that can be scanned is a `Scanned`
one: its analysis is the expansion of its roots, its root is a directory, and the
records of its graph are identified by the directories they are in.
-/

namespace EnvTags

namespace Project

theorem scan_ne_tooDeep
    (system : FileSystem)
    (root : Path)
    (modulePath : String)
    (exclusions : Exclusions) :
    scan system root modulePath exclusions ≠ .error .tooDeep := by
  unfold scan sourceFiles
  cases system.entry root with
  | error failure => simp
  | ok entry => exact fun failed => isFault_of_scanFiles failed

theorem modulePath_ne_tooDeep (system : FileSystem) (root : Path) :
    modulePath system root ≠ .error .tooDeep := by
  unfold modulePath
  split
  · simp
  · simp
  · split <;> simp

end Project

namespace Analysis

/-- The roots are expanded one after the other, without any bound in effect. -/
theorem expandRoots_eq
    (setting : Expansion.Setting)
    (roots : List Record) :
    expandRoots setting roots =
        Expansion.expandAll (Expansion.expand setting) roots {} ∧
      (expandRoots setting roots).1 ≠ .error .tooDeep := by
  have enough := (Expansion.KeySpace.length_keys_ofRoots setting {} roots).le
  obtain ⟨same, notTooDeep⟩ := Expansion.expandAll_expandWithin
    (Expansion.KeySpace.covers_ofRoots setting {} roots) enough
    (fun _ => Expansion.KeySpace.holds_of_mem_roots)
    (Expansion.KeySpace.ofCache_ofRoots setting {} roots)
  rw [← same] at notTooDeep
  exact ⟨same, notTooDeep⟩

theorem ofFiles_ne_tooDeep
    (system : FileSystem)
    (request : Request)
    (modulePath : String)
    (files : List SourceFile) :
    ofFiles system request modulePath files ≠ .error .tooDeep := by
  have expanded := (expandRoots_eq (request.setting system modulePath files)
    ((request.setting system modulePath files).graph.roots
      (request.setting system modulePath files).scheme)).2
  simp only [ofFiles]
  split
  · rename_i error state failed
    rw [failed] at expanded
    simpa using expanded
  · simp

/-- An analysis never fails for want of depth. -/
theorem run_ne_tooDeep (system : FileSystem) (request : Request) :
    run system request ≠ .error .tooDeep := by
  have manifest := Project.modulePath_ne_tooDeep system request.root
  unfold run
  split
  · rename_i error read
    simpa [read] using manifest
  · rename_i modulePath read
    have files := Project.scan_ne_tooDeep system request.root modulePath
      request.exclusions
    split
    · rename_i error scanned
      simpa [scanned] using files
    · exact ofFiles_ne_tooDeep system request modulePath _

/-! ## Projects that can be scanned -/

/-- A project whose source files can be scanned. -/
structure Scanned (system : FileSystem) (request : Request) where
  /-- The module path of the project. -/
  modulePath : String
  /-- The source files. -/
  files : List SourceFile
  /-- The manifest declares the module path. -/
  modulePath_eq : Project.modulePath system request.root = .ok modulePath
  /-- The source files are those of the project. -/
  files_eq : Project.scan system request.root modulePath request.exclusions =
    .ok files

namespace Scanned

variable {system : FileSystem} {request : Request}

/-- What the records of the project are expanded in. -/
def setting (scanned : Scanned system request) : Expansion.Setting :=
  request.setting system scanned.modulePath scanned.files

/-- The records that are expanded one after the other. -/
def roots (scanned : Scanned system request) : List Record :=
  scanned.setting.graph.roots scanned.setting.scheme

/-- The analysis of the project expands these records. -/
theorem run_eq (scanned : Scanned system request) :
    run system request =
      match expandRoots scanned.setting scanned.roots with
      | (.error error, _) => .error error
      | (.ok entries, state) =>
          .ok { entries := entries
                diagnostics := state.diagnostics
                modulePath := scanned.modulePath
                filesScanned := scanned.files.length
                recordCount := scanned.setting.graph.records.length
                rootCount := scanned.roots.length
                directoriesScanned := state.cache.length } := by
  rw [run, scanned.modulePath_eq]
  simp only [scanned.files_eq]
  rfl

theorem exists_directory (scanned : Scanned system request) :
    ∃ entries, system.entry request.root = .ok (.directory entries) := by
  have nonempty : request.root ≠ Path.empty := by
    intro isEmpty
    have files := scanned.files_eq
    rw [isEmpty] at files
    simp [Project.scan, Project.sourceFiles, FileSystem.entry,
      FileSystem.locate] at files
  have manifest := scanned.modulePath_eq
  unfold Project.modulePath at manifest
  cases found : system.entry (Project.manifestPath request.root) with
  | ok entry => exact FileSystem.exists_directory_of_entry_child nonempty found
  | error failure =>
      rw [FileSystem.readText, found] at manifest
      cases failure <;> simp at manifest

/-- The records of the graph have been scanned. -/
theorem mem_records
    (scanned : Scanned system request)
    {record : Record}
    (inGraph : record ∈ scanned.setting.graph.records) :
    record ∈ scanned.files.flatMap SourceFile.records :=
  Graph.mem_of_mem_records_ofFiles inGraph

/-- The records of the graph are identified by the names of directories. -/
theorem exists_identified
    (wellNamed : system.isWellNamed = true)
    (scanned : Scanned system request)
    {record : Record}
    (inGraph : record ∈ scanned.setting.graph.records) :
    ∃ names, Project.Identified system request.root scanned.modulePath names
      record := by
  obtain ⟨entries, isDirectory⟩ := scanned.exists_directory
  exact Project.exists_identified_of_mem_scan wellNamed isDirectory
    scanned.files_eq (scanned.mem_records inGraph)

/-- Records of the graph with one package are in directories that are read alike
unless one of them is from a main package. -/
theorem reading_eq_of_package_eq
    (wellNamed : system.isWellNamed = true)
    (scanned : Scanned system request)
    {left right : Record}
    (leftInGraph : left ∈ scanned.setting.graph.records)
    (rightInGraph : right ∈ scanned.setting.graph.records)
    (samePackage : left.package = right.package)
    (leftNotMain : Project.isMainFile system left.file = false)
    (rightNotMain : Project.isMainFile system right.file = false) :
    left.directory.reading = right.directory.reading := by
  have sameHome := (Project.package_eq_iff_home_eq wellNamed scanned.files_eq
    (scanned.mem_records leftInGraph) (scanned.mem_records rightInGraph)).mp
    samePackage
  simpa [Project.home, leftNotMain, rightNotMain] using sameHome

end Scanned

end Analysis
end EnvTags
