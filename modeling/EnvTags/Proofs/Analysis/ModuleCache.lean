import EnvTags.Proofs.Analysis.Agreement

/-!
# When a module cache is needed

A module cache is looked into only for a package that is neither below the module
path nor in the vendor directory. Without a module cache that is an error, which
ends the analysis. So where an analysis without a module cache does not end with
that error, a module cache changes nothing, wherever it is and whatever it holds.
-/

namespace EnvTags

namespace Dependency.Resolver

/-- The same resolver with a module cache. -/
def withCache (resolver : Resolver) (cache : Path) : Resolver :=
  { resolver with moduleCache := some cache }

variable {resolver : Resolver}

/-- A package is located without a module cache as it is with one, unless one is
missed. -/
theorem locate_withCache
    (uncached : resolver.moduleCache = none)
    (system : FileSystem)
    (cache : Path)
    (importPath : String) :
    (resolver.withCache cache).locate system importPath =
        resolver.locate system importPath ∨
      resolver.locate system importPath =
        .error (.dependencyRootNotFound importPath) := by
  have samePart : (resolver.withCache cache).projectPart? importPath =
      resolver.projectPart? importPath := rfl
  have sameVendor : (resolver.withCache cache).vendorDirectory =
      resolver.vendorDirectory := rfl
  rw [locate, locate, samePart, sameVendor, uncached]
  cases resolver.projectPart? importPath with
  | some rest => exact .inl rfl
  | none =>
      by_cases vendored : system.isDirectory
          (directoryBelow resolver.vendorDirectory importPath) = true
      · exact .inl (by simp only [if_pos vendored])
      · exact .inr (by simp only [if_neg vendored])

/-- A type is resolved without a module cache as it is with one, unless one is
missed. -/
theorem resolve_withCache
    (uncached : resolver.moduleCache = none)
    (system : FileSystem)
    (cache : Path)
    (graph : Graph)
    (scanned : ScanCache)
    (packageName typeName : String)
    (imports : List Import) :
    (resolver.withCache cache).resolve system graph scanned packageName typeName
          imports =
        resolver.resolve system graph scanned packageName typeName imports ∨
      ∃ importPath,
        (resolver.resolve system graph scanned packageName typeName imports).1 =
          .error (.dependencyRootNotFound importPath) := by
  unfold resolve
  cases Import.bound? packageName imports with
  | none => exact .inl rfl
  | some imported =>
      simp only
      cases graph.find? ⟨imported.path, typeName⟩ with
      | some record => exact .inl rfl
      | none =>
          simp only [resolveIn]
          rcases locate_withCache uncached system cache imported.path with
            same | missed
          · exact .inl (by rw [same])
          · exact .inr ⟨imported.path, by rw [missed]⟩

end Dependency.Resolver

namespace Expansion

/-- A missed module cache is an excuse. -/
def missedCache : Excuse where
  ofError error := ∃ importPath, error = .dependencyRootNotFound importPath
  ofCache _ := False
  ofCache_of_suffix := fun _ excused => excused

/-- A module cache changes no lookup that does not miss one. -/
theorem agreement_withCache
    {setting : Setting}
    (uncached : setting.resolver.moduleCache = none)
    (cache : Path) :
    Agreement missedCache setting
      { setting with resolver := setting.resolver.withCache cache } where
  scheme_eq := rfl
  lookup := by
    intro state record field
    unfold nestedRecord
    cases field.typeRef with
    | builtin type => exact .inl rfl
    | composite text => exact .inl rfl
    | unqualified name => exact .inl rfl
    | qualified package name =>
        refine imported_agrees ?_ field
        rcases Dependency.Resolver.resolve_withCache uncached setting.system
          cache setting.graph state.cache package name record.imports with
          same | ⟨importPath, missed⟩
        · exact .inl same
        · exact .inr (.inl ⟨_, missed, importPath, rfl⟩)

end Expansion

namespace Analysis

/-- An analysis gives the same with every module cache as without one, unless it
misses one. -/
theorem run_eq_or_missedCache
    (system : FileSystem)
    (root : Path)
    (config : Config)
    (cache : Path) :
    run system ⟨root, config, some cache⟩ = run system ⟨root, config, none⟩ ∨
      ∃ importPath, run system ⟨root, config, none⟩ =
        .error (.dependencyRootNotFound importPath) := by
  have agreed : run system ⟨root, config, some cache⟩ =
        run system ⟨root, config, none⟩ ∨
      ∃ scanned : Scanned system ⟨root, config, none⟩,
        Expansion.missedCache.Covers
          (expandRoots scanned.setting scanned.roots) :=
    run_eq_or_covers rfl (fun _ => rfl) fun _ _ =>
      Expansion.agreement_withCache rfl cache
  rcases agreed with same | ⟨scanned, covered⟩
  · exact .inl same
  · obtain ⟨error, failed, importPath, rfl⟩ | impossible := covered
    · exact .inr ⟨importPath, scanned.run_eq_error failed⟩
    · exact impossible.elim

/-- A module cache is looked into only where it is needed: if an analysis
succeeds without a module cache, it gives the same with every module cache. -/
theorem run_eq_ok_of_moduleCache_none
    (system : FileSystem)
    (root : Path)
    (config : Config)
    (cache : Path)
    {analysis : Analysis}
    (succeeded : run system ⟨root, config, none⟩ = .ok analysis) :
    run system ⟨root, config, some cache⟩ = .ok analysis := by
  rcases run_eq_or_missedCache system root config cache with
    same | ⟨importPath, missed⟩
  · rw [same, succeeded]
  · simp [succeeded] at missed

/-! ## A project with a vendored dependency -/

/-- A source file with a field of an imported type. -/
def tracedSource : String :=
  "package app\n\nimport \"github.com/acme/trace\"\n\n" ++
    "type Config struct \x7b\n" ++
    "\tTrace trace.Config `env:\",prefix=TRACE_\"`\n\x7d\n"

/-- A source file of the imported package. -/
def traceSource : String :=
  "package trace\n\ntype Config struct \x7b\n" ++
    "\tRatio float64 `env:\"RATIO,default=1\"`\n\x7d\n"

/-- A project with a vendored dependency that it uses, and one that it does
not. -/
def tracedProject (unused : String) : FileSystem where
  root := .directory [("proj", .directory [
    ("go.mod", .file (.text "module example.com/app\n")),
    ("config.go", .file (.text tracedSource)),
    ("vendor", .directory [("github.com", .directory [("acme", .directory [
      ("trace", .directory [("config.go", .file (.text traceSource))]),
      ("unused", .directory [("config.go", .file (.text unused))])])])])])]

/-- The analysis of the project. -/
def tracedAnalysis : Analysis where
  entries := [⟨"github.com/acme/trace", "TRACE_RATIO", "1"⟩]
  diagnostics := []
  modulePath := "example.com/app"
  filesScanned := 1
  recordCount := 1
  rootCount := 1
  directoriesScanned := 1

theorem run_tracedProject :
    run (tracedProject "package unused\n") ⟨⟨"proj", []⟩, {}, none⟩ =
      .ok tracedAnalysis := by
  decide +kernel

/-- The vendored dependency is found with a module cache that does not exist. -/
theorem run_tracedProject_cached :
    run (tracedProject "package unused\n") ⟨⟨"proj", []⟩, {}, none⟩ =
        .ok tracedAnalysis ∧
      run (tracedProject "package unused\n")
          ⟨⟨"proj", []⟩, {}, some ⟨"nowhere", []⟩⟩ = .ok tracedAnalysis :=
  ⟨run_tracedProject,
    run_eq_ok_of_moduleCache_none _ _ _ _ run_tracedProject⟩

end Analysis
end EnvTags
