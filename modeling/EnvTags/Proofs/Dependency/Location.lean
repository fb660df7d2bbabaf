import EnvTags.Proofs.Dependency.Faults
import EnvTags.Proofs.Dependency.Listing
import EnvTags.Proofs.Dependency.Resolve
import EnvTags.Proofs.FileSystem.Place
import EnvTags.Proofs.ImportPath
import EnvTags.Proofs.Project.Scan

/-!
# Where packages are looked for

A type of an imported package is looked for in the graph, in the project, in the
vendor directory and in the module cache, in this order. The first place that has
a say decides: what is missing there is not looked for elsewhere. The main
statement gives the answer for each place, says on what it depends, and says
exactly when a dependency has no root at all.
-/

namespace EnvTags
namespace Dependency

/-- The answer for a type among the records of a package. -/
def Resolution.among
    (importPath typeName : String)
    (records : List Record) : Resolution :=
  match records.find? fun record => record.name = typeName with
  | none => .notFound importPath
  | some record => .found record

/-- The answer for a type that is looked for in one directory, or nowhere. -/
def answerIn
    (system : FileSystem)
    (cache : ScanCache)
    (importPath typeName : String) :
    Option Path → Except AnalysisError Resolution × ScanCache
  | none => (.ok (.notFound importPath), cache)
  | some directory =>
      let scanned := scanPackage system cache directory importPath
      (scanned.1.map (Resolution.among importPath typeName), scanned.2)

/-! ## What a scan looks at -/

section Entries

variable {system other : FileSystem} {directory : Path}

/-- The source files in a directory have the texts that its entry holds. -/
theorem sameSources_of_entry_eq
    (same : other.entry directory = system.entry directory) :
    Project.SameSources system other directory := by
  intro paths listed path inside
  obtain ⟨name, isSource, rfl⟩ := Project.mem_directoryFiles listed inside
  have steps := Project.stepsToEntry_of_isSourceName isSource
  unfold Project.directoryFiles FileSystem.readDirectory at listed
  rcases found : system.entry directory with failure | content | entries
  · simp [found] at listed
  · simp [found] at listed
  · rw [FileSystem.readText, FileSystem.readText,
      FileSystem.entry_child_eq found steps,
      FileSystem.entry_child_eq (same.trans found) steps]

/-- A scan looks at the entry of its directory only. -/
theorem packageRecords_eq_of_entry_eq
    (same : other.entry directory = system.entry directory)
    (package : String) :
    packageRecords other directory package =
      packageRecords system directory package := by
  have sameFiles : Project.directoryFiles other directory =
      Project.directoryFiles system directory := by
    rw [Project.directoryFiles, Project.directoryFiles,
      FileSystem.readDirectory, FileSystem.readDirectory, same]
  rw [packageRecords, packageRecords, Project.scanDirectory_congr_of_files
    sameFiles (sameSources_of_entry_eq same)]

theorem scanPackage_eq_of_entry_eq
    (same : other.entry directory = system.entry directory)
    (cache : ScanCache)
    (package : String) :
    scanPackage other cache directory package =
      scanPackage system cache directory package := by
  rw [scanPackage, scanPackage, packageRecords_eq_of_entry_eq same]

theorem isDirectory_eq_of_entry_eq
    (same : other.entry directory = system.entry directory) :
    other.isDirectory directory = system.isDirectory directory := by
  rw [FileSystem.isDirectory, FileSystem.isDirectory, same]

/-- The answer from one directory is read off the entry of the directory. -/
theorem answerIn_eq_of_entry_eq
    (same : other.entry directory = system.entry directory)
    (cache : ScanCache)
    (importPath typeName : String) :
    answerIn other cache importPath typeName (some directory) =
      answerIn system cache importPath typeName (some directory) := by
  rw [answerIn, answerIn, scanPackage_eq_of_entry_eq same]

/-- This is so as well if nothing is looked for where no directory is. -/
theorem answerIn_filter_eq_of_entry_eq
    (same : other.entry directory = system.entry directory)
    (cache : ScanCache)
    (importPath typeName : String) :
    answerIn other cache importPath typeName
        ((some directory).filter other.isDirectory) =
      answerIn system cache importPath typeName
        ((some directory).filter system.isDirectory) := by
  rw [Option.filter_some, Option.filter_some, isDirectory_eq_of_entry_eq same]
  split
  · exact answerIn_eq_of_entry_eq same cache importPath typeName
  · rfl

end Entries

namespace Resolver

/-! ## Locations -/

section Locations

variable {resolver : Resolver} {system : FileSystem} {importPath : String}

/-- The part below the module path is what follows it and a slash. -/
theorem projectPart?_eq_some_iff {rest : String} :
    resolver.projectPart? importPath = some rest ↔
      importPath = resolver.modulePath ++ "/" ++ rest := by
  rw [projectPart?, Option.map_eq_some_iff]
  constructor
  · rintro ⟨characters, after, rfl⟩
    apply String.toList_injective
    simp [Text.after?_eq_some_iff.mp after]
  · rintro rfl
    refine ⟨rest.toList, ?_, String.ofList_toList⟩
    rw [Text.after?_eq_some_iff, String.toList_append]

theorem projectPart?_eq_none_iff :
    resolver.projectPart? importPath = none ↔
      ∀ rest, importPath ≠ resolver.modulePath ++ "/" ++ rest := by
  rw [Option.eq_none_iff_forall_ne_some]
  exact forall_congr' fun rest => not_congr projectPart?_eq_some_iff

/-- A package below the module path is located in the project. -/
theorem locate_of_below
    {rest : String}
    (below : importPath = resolver.modulePath ++ "/" ++ rest) :
    resolver.locate system importPath =
      .ok ((some (directoryBelow resolver.projectRoot rest)).filter
        system.isDirectory) := by
  rw [locate, projectPart?_eq_some_iff.mpr below]
  rfl

/-- Any other package is located in the vendor directory if it is there. -/
theorem locate_of_vendored
    (outside : ∀ rest, importPath ≠ resolver.modulePath ++ "/" ++ rest)
    (vendored : system.isDirectory
      (directoryBelow resolver.vendorDirectory importPath) = true) :
    resolver.locate system importPath =
      .ok (some (directoryBelow resolver.vendorDirectory importPath)) := by
  simp [locate, projectPart?_eq_none_iff.mpr outside, vendored]

/-- Else it is located in the module cache, if there is one. -/
theorem locate_of_not_vendored
    (outside : ∀ rest, importPath ≠ resolver.modulePath ++ "/" ++ rest)
    (notVendored : system.isDirectory
      (directoryBelow resolver.vendorDirectory importPath) = false) :
    resolver.locate system importPath =
      match resolver.moduleCache with
      | none => .error (.dependencyRootNotFound importPath)
      | some moduleCache => locateInCache system moduleCache importPath := by
  rw [locate, projectPart?_eq_none_iff.mpr outside]
  cases resolver.moduleCache <;> simp [notVendored]

/-- A package has no root exactly if it is not below the module path, it is not
vendored, and there is no module cache. -/
theorem locate_eq_dependencyRootNotFound_iff {missing : String} :
    resolver.locate system importPath =
        .error (.dependencyRootNotFound missing) ↔
      missing = importPath ∧
        (∀ rest, importPath ≠ resolver.modulePath ++ "/" ++ rest) ∧
        system.isDirectory
          (directoryBelow resolver.vendorDirectory importPath) = false ∧
        resolver.moduleCache = none := by
  constructor
  · intro failed
    by_cases outside :
        ∀ rest, importPath ≠ resolver.modulePath ++ "/" ++ rest
    · cases vendored : system.isDirectory
          (directoryBelow resolver.vendorDirectory importPath) with
      | true => simp [locate_of_vendored outside vendored] at failed
      | false =>
          rw [locate_of_not_vendored outside vendored] at failed
          cases cached : resolver.moduleCache with
          | none =>
              simp only [cached, Except.error.injEq,
                AnalysisError.dependencyRootNotFound.injEq] at failed
              exact ⟨failed.symm, outside, rfl, rfl⟩
          | some moduleCache =>
              simp only [cached] at failed
              exact (isFault_of_locateInCache failed).elim
    · push Not at outside
      obtain ⟨rest, below⟩ := outside
      simp [locate_of_below below] at failed
  · rintro ⟨rfl, outside, notVendored, uncached⟩
    rw [locate_of_not_vendored outside notVendored, uncached]

end Locations

/-! ## Answers -/

section Answers

variable
  {resolver : Resolver}
  {system : FileSystem}
  {graph : Graph}
  {cache : ScanCache}
  {packageName typeName : String}
  {imports : List Import}
  {imported : Import}

/-- What the graph does not have is looked for in the located directory. -/
theorem resolve_of_locate
    (bound : Import.bound? packageName imports = some imported)
    (unknown : graph.find? ⟨imported.path, typeName⟩ = none)
    {location : Option Path}
    (located : resolver.locate system imported.path = .ok location) :
    resolver.resolve system graph cache packageName typeName imports =
      answerIn system cache imported.path typeName location := by
  cases location with
  | none => simp [resolve, bound, unknown, resolveIn, located, answerIn]
  | some directory =>
      simp only [resolve, bound, unknown, resolveIn, located, answerIn]
      rcases scanPackage system cache directory imported.path with
        ⟨error | records, next⟩
      · rfl
      · simp only [Except.map, Resolution.among]
        cases records.find? fun record => record.name = typeName <;> rfl

theorem resolve_of_locate_error
    (bound : Import.bound? packageName imports = some imported)
    (unknown : graph.find? ⟨imported.path, typeName⟩ = none)
    {error : AnalysisError}
    (failed : resolver.locate system imported.path = .error error) :
    resolver.resolve system graph cache packageName typeName imports =
      (.error error, cache) := by
  simp [resolve, bound, unknown, resolveIn, failed]

/-- A package below the module path answers from its directory of the project. -/
theorem resolve_of_below
    (resolver : Resolver)
    (system : FileSystem)
    (cache : ScanCache)
    (bound : Import.bound? packageName imports = some imported)
    (unknown : graph.find? ⟨imported.path, typeName⟩ = none)
    {rest : String}
    (below : imported.path = resolver.modulePath ++ "/" ++ rest) :
    resolver.resolve system graph cache packageName typeName imports =
      answerIn system cache imported.path typeName
        ((some (directoryBelow resolver.projectRoot rest)).filter
          system.isDirectory) :=
  resolve_of_locate bound unknown (locate_of_below below)

/-- A vendored package answers from the vendor directory. -/
theorem resolve_of_vendored
    (resolver : Resolver)
    (system : FileSystem)
    (cache : ScanCache)
    (bound : Import.bound? packageName imports = some imported)
    (unknown : graph.find? ⟨imported.path, typeName⟩ = none)
    (outside : ∀ rest, imported.path ≠ resolver.modulePath ++ "/" ++ rest)
    (vendored : system.isDirectory
      (directoryBelow resolver.vendorDirectory imported.path) = true) :
    resolver.resolve system graph cache packageName typeName imports =
      answerIn system cache imported.path typeName
        (some (directoryBelow resolver.vendorDirectory imported.path)) :=
  resolve_of_locate bound unknown (locate_of_vendored outside vendored)

/-- A dependency has no root exactly if its import is matched, its type is not in
the graph, and its package cannot be anywhere. -/
theorem resolve_eq_dependencyRootNotFound_iff {missing : String} :
    (resolver.resolve system graph cache packageName typeName imports).1 =
        .error (.dependencyRootNotFound missing) ↔
      ∃ imported, Import.bound? packageName imports = some imported ∧
        missing = imported.path ∧
        graph.find? ⟨imported.path, typeName⟩ = none ∧
        (∀ rest, imported.path ≠ resolver.modulePath ++ "/" ++ rest) ∧
        system.isDirectory
          (directoryBelow resolver.vendorDirectory imported.path) = false ∧
        resolver.moduleCache = none := by
  constructor
  · intro failed
    have step := resolver.resolve_step system graph cache packageName typeName
      imports
    generalize resolver.resolve system graph cache packageName typeName
      imports = result at step failed
    cases step with
    | unlocatable imported bound unknown error unlocated =>
        cases failed
        obtain ⟨isPath, nowhere⟩ :=
          locate_eq_dependencyRootNotFound_iff.mp unlocated
        exact ⟨imported, bound, isPath, unknown, nowhere⟩
    | unreadable imported bound unknown directory located error next unread =>
        cases failed
        exact (isFault_of_scanPackage unread).elim
    | unmatched | inGraph | unlocated | undeclared | declared => cases failed
  · rintro ⟨imported, bound, isPath, unknown, nowhere⟩
    rw [resolve_of_locate_error bound unknown
      (locate_eq_dependencyRootNotFound_iff.mpr ⟨isPath, nowhere⟩)]

end Answers

/-! ## The order of the places -/

/-- The order in which a type of an imported package is looked for, as the
answers of resolvers show it. -/
structure LooksInOrder
    (answer : Resolver → FileSystem → ScanCache →
      Except AnalysisError Resolution × ScanCache)
    (graph : Graph)
    (importPath typeName : String) : Prop where
  /-- A record of the graph is the answer for every resolver and file system and
  whatever is known, and nothing more gets known. -/
  inGraph : ∀ record, graph.find? ⟨importPath, typeName⟩ = some record →
    ∀ resolver system cache,
      answer resolver system cache = (.ok (.found record), cache)
  /-- Else a package below the module path is looked for in its directory of the
  project. -/
  inProject : graph.find? ⟨importPath, typeName⟩ = none →
    ∀ resolver rest, importPath = resolver.modulePath ++ "/" ++ rest →
      ∀ system cache,
        answer resolver system cache =
          answerIn system cache importPath typeName
            ((some (directoryBelow resolver.projectRoot rest)).filter
              system.isDirectory)
  /-- Nothing else is considered for it: vendor directory and module cache do not
  matter, nor does the file system outside of that directory. -/
  inProjectOnly : graph.find? ⟨importPath, typeName⟩ = none →
    ∀ resolver rest, importPath = resolver.modulePath ++ "/" ++ rest →
      ∀ (vendorDirectory : Path) (moduleCache : Option Path)
        (system other : FileSystem) (cache : ScanCache),
        other.entry (directoryBelow resolver.projectRoot rest) =
            system.entry (directoryBelow resolver.projectRoot rest) →
          answer { resolver with vendorDirectory, moduleCache } other cache =
            answer resolver system cache
  /-- Else a package in the vendor directory is looked for there. -/
  vendored : graph.find? ⟨importPath, typeName⟩ = none →
    ∀ resolver, (∀ rest, importPath ≠ resolver.modulePath ++ "/" ++ rest) →
      ∀ system, system.isDirectory
          (directoryBelow resolver.vendorDirectory importPath) = true →
        ∀ cache, answer resolver system cache =
          answerIn system cache importPath typeName
            (some (directoryBelow resolver.vendorDirectory importPath))
  /-- Nothing else is considered for it: the module cache does not matter, nor
  does the file system outside of that directory. -/
  vendoredOnly : graph.find? ⟨importPath, typeName⟩ = none →
    ∀ resolver, (∀ rest, importPath ≠ resolver.modulePath ++ "/" ++ rest) →
      ∀ system, system.isDirectory
          (directoryBelow resolver.vendorDirectory importPath) = true →
        ∀ (projectRoot : Path) (moduleCache : Option Path)
          (other : FileSystem) (cache : ScanCache),
          other.entry (directoryBelow resolver.vendorDirectory importPath) =
              system.entry
                (directoryBelow resolver.vendorDirectory importPath) →
            answer { resolver with projectRoot, moduleCache } other cache =
              answer resolver system cache
  /-- It is not found if the vendored package lacks the type. -/
  vendoredWithout : graph.find? ⟨importPath, typeName⟩ = none →
    ∀ resolver, (∀ rest, importPath ≠ resolver.modulePath ++ "/" ++ rest) →
      ∀ system, system.isDirectory
          (directoryBelow resolver.vendorDirectory importPath) = true →
        ∀ cache records next,
          scanPackage system cache
              (directoryBelow resolver.vendorDirectory importPath) importPath =
            (.ok records, next) →
          (∀ record ∈ records, record.name ≠ typeName) →
            answer resolver system cache = (.ok (.notFound importPath), next)
  /-- Else the module cache is walked, and where the walk ends is looked into. -/
  cached : graph.find? ⟨importPath, typeName⟩ = none →
    ∀ resolver, (∀ rest, importPath ≠ resolver.modulePath ++ "/" ++ rest) →
      ∀ system, system.isDirectory
          (directoryBelow resolver.vendorDirectory importPath) = false →
        ∀ moduleCache, resolver.moduleCache = some moduleCache →
          ∀ cache, answer resolver system cache =
            match locateInCache system moduleCache importPath with
            | .error error => (.error error, cache)
            | .ok location =>
                answerIn system cache importPath typeName location

/-- A package without the type answers that it is not found. -/
theorem answerIn_of_lacking
    {system : FileSystem}
    {cache next : ScanCache}
    {directory : Path}
    {importPath typeName : String}
    {records : List Record}
    (scanned : scanPackage system cache directory importPath =
      (.ok records, next))
    (lacking : ∀ record ∈ records, record.name ≠ typeName) :
    answerIn system cache importPath typeName (some directory) =
      (.ok (.notFound importPath), next) := by
  have absent : (records.find? fun record => record.name = typeName) = none := by
    simpa using lacking
  simp [answerIn, scanned, Except.map, Resolution.among, absent]

/-- A type is looked for in the graph, in the project, in the vendor directory
and in the module cache, in this order. A dependency has no root exactly if none
of these places has a say. A name that no import binds is looked for nowhere. -/
theorem resolve_looksInOrder
    (graph : Graph)
    (packageName typeName : String)
    (imports : List Import) :
    (Import.bound? packageName imports = none →
      ∀ (resolver : Resolver) system cache,
        resolver.resolve system graph cache packageName typeName imports =
          (.ok .importNotMatched, cache)) ∧
      (∀ imported, Import.bound? packageName imports = some imported →
        LooksInOrder
          (fun resolver system cache =>
            resolver.resolve system graph cache packageName typeName imports)
          graph imported.path typeName) ∧
      ∀ (resolver : Resolver) system cache missing,
        (resolver.resolve system graph cache packageName typeName imports).1 =
            .error (.dependencyRootNotFound missing) ↔
          ∃ imported, Import.bound? packageName imports = some imported ∧
            missing = imported.path ∧
            graph.find? ⟨imported.path, typeName⟩ = none ∧
            (∀ rest, imported.path ≠ resolver.modulePath ++ "/" ++ rest) ∧
            system.isDirectory
              (directoryBelow resolver.vendorDirectory imported.path) = false ∧
            resolver.moduleCache = none := by
  refine ⟨?_, ?_, fun _ _ _ _ => resolve_eq_dependencyRootNotFound_iff⟩
  · intro unbound resolver system cache
    simp [resolve, unbound]
  · intro imported bound
    constructor
    case inGraph =>
      intro record known resolver system cache
      simp [resolve, bound, known]
    case inProject =>
      intro unknown resolver rest below system cache
      exact resolve_of_below resolver system cache bound unknown below
    case inProjectOnly =>
      intro unknown resolver rest below vendorDirectory moduleCache system other
        cache same
      rw [resolve_of_below resolver system cache bound unknown below,
        resolve_of_below { resolver with vendorDirectory, moduleCache } other
          cache bound unknown below]
      exact answerIn_filter_eq_of_entry_eq same cache imported.path typeName
    case vendored =>
      intro unknown resolver outside system vendored cache
      exact resolve_of_vendored resolver system cache bound unknown outside
        vendored
    case vendoredOnly =>
      intro unknown resolver outside system vendored projectRoot moduleCache
        other cache same
      have alsoVendored := (isDirectory_eq_of_entry_eq same).trans vendored
      rw [resolve_of_vendored resolver system cache bound unknown outside
          vendored,
        resolve_of_vendored { resolver with projectRoot, moduleCache } other
          cache bound unknown outside alsoVendored]
      exact answerIn_eq_of_entry_eq same cache imported.path typeName
    case vendoredWithout =>
      intro unknown resolver outside system vendored cache records next scanned
        lacking
      rw [resolve_of_vendored resolver system cache bound unknown outside
        vendored]
      exact answerIn_of_lacking scanned lacking
    case cached =>
      intro unknown resolver outside system notVendored moduleCache isCache cache
      have located := locate_of_not_vendored outside notVendored
      simp only [isCache] at located
      cases walked : locateInCache system moduleCache imported.path with
      | error error =>
          exact resolve_of_locate_error bound unknown (located.trans walked)
      | ok location =>
          exact resolve_of_locate bound unknown (located.trans walked)

end Resolver
end Dependency
end EnvTags
