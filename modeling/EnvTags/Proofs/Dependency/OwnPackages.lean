import EnvTags.Proofs.Dependency.Location

/-!
# The packages of the module itself

A package of the module itself belongs to a directory of the project, so no
dependency root should be needed to look for it. That is how the packages below
the module path are found. The package at the root of the module is not: nothing
follows the module path in its import path, and a type of it that the graph lacks
is looked for like that of any other dependency. The main statement says exactly
when a package of the module is looked for in the project only.
-/

namespace EnvTags

namespace Path

/-- The path of an entry starts like the path that it continues. -/
theorem head_child
    {base : Path}
    (started : base.head ≠ "")
    (name : String) :
    (base.child name).head = base.head := by
  have nonempty : base ≠ empty := by
    rintro rfl
    exact started rfl
  obtain ⟨tail, child, -⟩ := child_eq_of_ne_empty nonempty name
  rw [child]

end Path

namespace FileSystem

/-- The file system that holds nothing. -/
def bare : FileSystem where
  root := .directory []

/-- No entry of the bare file system is a directory. -/
theorem isDirectory_bare
    {path : Path}
    (steps : Path.StepsToEntry path.head) :
    bare.isDirectory path = false := by
  have nonempty : path ≠ Path.empty := by
    rintro rfl
    exact steps.ne_empty rfl
  have relative : path.isAbsolute = false := by
    simp [Path.isAbsolute, steps.ne_empty]
  simp [isDirectory, entry, locate, nonempty, relative, followRelative, follow,
    Path.pieces, enter, entryAt, bare, steps.1, steps.2]

end FileSystem

namespace Dependency
namespace Resolver

/-- The directories of the project that the packages of the module itself belong
to. -/
inductive Owns (resolver : Resolver) : String → Path → Prop
  /-- The module path belongs to the root of the project. -/
  | root : Owns resolver resolver.modulePath resolver.projectRoot
  /-- A path below the module path belongs to a directory below the root. -/
  | below (rest : String) :
      Owns resolver (resolver.modulePath ++ "/" ++ rest)
        (directoryBelow resolver.projectRoot rest)

/-- The answer for a type of the module itself: from the graph, else from the
directory of its package. -/
def ownAnswer
    (system : FileSystem)
    (graph : Graph)
    (cache : ScanCache)
    (directory : Path)
    (importPath typeName : String) :
    Except AnalysisError Resolution × ScanCache :=
  match graph.find? ⟨importPath, typeName⟩ with
  | some record => (.ok (.found record), cache)
  | none =>
      answerIn system cache importPath typeName
        ((some directory).filter system.isDirectory)

/-- Such an answer looks at the directory only. -/
theorem ownAnswer_eq_of_entry_eq
    {system other : FileSystem}
    {directory : Path}
    (same : other.entry directory = system.entry directory)
    (graph : Graph)
    (cache : ScanCache)
    (importPath typeName : String) :
    ownAnswer other graph cache directory importPath typeName =
      ownAnswer system graph cache directory importPath typeName := by
  rw [ownAnswer, ownAnswer]
  cases graph.find? ⟨importPath, typeName⟩ with
  | some record => rfl
  | none => exact answerIn_filter_eq_of_entry_eq same cache importPath typeName

theorem answerIn_ne_dependencyRootNotFound
    (system : FileSystem)
    (cache : ScanCache)
    (importPath typeName missing : String)
    (location : Option Path) :
    (answerIn system cache importPath typeName location).1 ≠
      .error (.dependencyRootNotFound missing) := by
  cases location with
  | none => simp [answerIn]
  | some directory =>
      rcases scanned : scanPackage system cache directory importPath with
        ⟨error | records, next⟩
      · have isFault := isFault_of_scanPackage scanned
        simp only [answerIn, scanned, Except.map, ne_eq, Except.error.injEq]
        rintro rfl
        exact isFault
      · simp [answerIn, scanned, Except.map]

/-- Such an answer needs no dependency root. -/
theorem ownAnswer_ne_dependencyRootNotFound
    (system : FileSystem)
    (graph : Graph)
    (cache : ScanCache)
    (directory : Path)
    (importPath typeName missing : String) :
    (ownAnswer system graph cache directory importPath typeName).1 ≠
      .error (.dependencyRootNotFound missing) := by
  unfold ownAnswer
  split
  · simp
  · exact answerIn_ne_dependencyRootNotFound system cache importPath typeName
      missing _

/-- The module path is not below itself. -/
theorem modulePath_ne_below (resolver : Resolver) (rest : String) :
    resolver.modulePath ≠ resolver.modulePath ++ "/" ++ rest :=
  projectPart?_eq_none_iff.mp resolver.projectPart?_modulePath rest

theorem head_directoryBelow
    {base : Path}
    (started : base.head ≠ "")
    (importPath : String) :
    (directoryBelow base importPath).head = base.head := by
  unfold directoryBelow
  induction segments importPath generalizing base with
  | nil => rfl
  | cons segment segments inductionHypothesis =>
      have sameHead := Path.head_child started segment
      rw [List.map_cons, List.foldl_cons,
        inductionHypothesis (sameHead ▸ started), sameHead]

section Own

variable
  {resolver : Resolver}
  {graph : Graph}
  {packageName typeName : String}
  {imports : List Import}
  {imported : Import}
  {directory : Path}

/-- What is the module's own does not depend on where dependencies are. -/
theorem Owns.withRoots
    {importPath : String}
    (own : resolver.Owns importPath directory)
    (vendorDirectory : Path)
    (moduleCache : Option Path) :
    { resolver with vendorDirectory, moduleCache }.Owns importPath directory := by
  cases own with
  | root => exact .root
  | below rest => exact .below rest

/-- A package of the module itself lies outside of the packages below the module
path only if it is the one at the root. -/
theorem Owns.outside_iff
    {importPath : String}
    (own : resolver.Owns importPath directory) :
    (∀ rest, importPath ≠ resolver.modulePath ++ "/" ++ rest) ↔
      importPath = resolver.modulePath := by
  constructor
  · intro outside
    cases own with
    | root => rfl
    | below rest => exact absurd rfl (outside rest)
  · rintro rfl
    exact resolver.modulePath_ne_below

/-- A type in the graph, or of a package below the module path, is answered for
as one of the module itself. -/
theorem resolve_eq_ownAnswer
    (bound : Import.bound? packageName imports = some imported)
    (own : resolver.Owns imported.path directory)
    (foundOrBelow : imported.path ≠ resolver.modulePath ∨
      graph.find? ⟨imported.path, typeName⟩ ≠ none)
    (system : FileSystem)
    (cache : ScanCache) :
    resolver.resolve system graph cache packageName typeName imports =
      ownAnswer system graph cache directory imported.path typeName := by
  cases known : graph.find? ⟨imported.path, typeName⟩ with
  | some record => simp [resolve, bound, known, ownAnswer]
  | none =>
      have isBelow : imported.path ≠ resolver.modulePath :=
        foundOrBelow.resolve_right fun found => found known
      generalize isPath : imported.path = importPath at own isBelow
      cases own with
      | root => exact absurd rfl isBelow
      | below rest =>
          rw [resolve_of_below resolver system cache bound known isPath,
            ownAnswer, ← isPath, known]

/-- A package of the module itself is looked for in its directory of the project
only, whatever the vendor directory and the module cache are, exactly if it is
not the one at the root or the graph has the type. Its dependency root is found
missing exactly if it is the one at the root, the graph lacks the type, and there
is neither a vendored directory nor a module cache. -/
theorem resolve_eq_ownAnswer_iff
    (bound : Import.bound? packageName imports = some imported)
    (own : resolver.Owns imported.path directory) :
    ((∀ (vendorDirectory : Path) (moduleCache : Option Path) system cache,
        { resolver with vendorDirectory, moduleCache }.resolve system graph
            cache packageName typeName imports =
          ownAnswer system graph cache directory imported.path typeName) ↔
      imported.path ≠ resolver.modulePath ∨
        graph.find? ⟨imported.path, typeName⟩ ≠ none) ∧
      (∀ system other cache, other.entry directory = system.entry directory →
        ownAnswer other graph cache directory imported.path typeName =
          ownAnswer system graph cache directory imported.path typeName) ∧
      ∀ system cache,
        (resolver.resolve system graph cache packageName typeName imports).1 =
            .error (.dependencyRootNotFound imported.path) ↔
          imported.path = resolver.modulePath ∧
            graph.find? ⟨imported.path, typeName⟩ = none ∧
            system.isDirectory
              (directoryBelow resolver.vendorDirectory imported.path) = false ∧
            resolver.moduleCache = none := by
  refine ⟨⟨?_, ?_⟩, ?_, ?_⟩
  · -- In a bare file system nothing is vendored, so without a module cache the
    -- package at the root has no dependency root.
    intro answers
    by_contra atRoot
    push Not at atRoot
    obtain ⟨isRoot, unknown⟩ := atRoot
    have notVendored : FileSystem.bare.isDirectory
        (directoryBelow ⟨"vendor", []⟩ imported.path) = false := by
      apply FileSystem.isDirectory_bare
      rw [head_directoryBelow (by decide)]
      decide
    have rootless := answers ⟨"vendor", []⟩ none .bare []
    apply ownAnswer_ne_dependencyRootNotFound .bare graph [] directory
      imported.path typeName imported.path
    rw [← rootless]
    exact resolve_eq_dependencyRootNotFound_iff.mpr
      ⟨imported, bound, rfl, unknown, own.outside_iff.mpr isRoot, notVendored,
        rfl⟩
  · intro foundOrBelow vendorDirectory moduleCache system cache
    exact resolve_eq_ownAnswer bound (own.withRoots vendorDirectory moduleCache)
      foundOrBelow system cache
  · intro system other cache same
    exact ownAnswer_eq_of_entry_eq same graph cache imported.path typeName
  · intro system cache
    rw [resolve_eq_dependencyRootNotFound_iff]
    constructor
    · rintro ⟨matched, alsoBound, -, unknown, outside, nowhere⟩
      obtain rfl := Option.some.inj (bound.symm.trans alsoBound)
      exact ⟨own.outside_iff.mp outside, unknown, nowhere⟩
    · rintro ⟨isRoot, unknown, nowhere⟩
      exact ⟨imported, bound, rfl, unknown, own.outside_iff.mpr isRoot, nowhere⟩

end Own

/-! ## The package at the root -/

/-- A source file with one record. -/
def settingsSource : String :=
  "package app\n\ntype Settings struct \x7b\n" ++
    "\tKey string `env:\"KEY,default=k\"`\n\x7d\n"

/-- A project with a record at its root and one in a directory below. -/
def settingsSystem : FileSystem where
  root := .directory [("proj", .directory [
    ("settings.go", .file (.text settingsSource)),
    ("internal", .directory [("settings.go", .file (.text settingsSource))])])]

/-- A resolver for the project that knows no dependency root. -/
def settingsResolver : Resolver where
  projectRoot := ⟨"proj", []⟩
  modulePath := "example.com/app"
  vendorDirectory := ⟨"proj", ["vendor"]⟩
  moduleCache := none

/-- The record of a package of the project. -/
def settingsRecord (directory : Path) (package : String) : Record where
  file := directory.child "settings.go"
  package := package
  name := "Settings"
  fields := [⟨"Key", "string", "env:\"KEY,default=k\""⟩]
  imports := []

/-- The package below the root is looked for in its directory, whatever
dependency roots there are. -/
theorem resolve_internal_settings :
    (∀ (vendorDirectory : Path) (moduleCache : Option Path) system cache,
      { settingsResolver with vendorDirectory, moduleCache }.resolve system .empty
          cache "internal" "Settings" [⟨"example.com/app/internal", none⟩] =
        ownAnswer system .empty cache ⟨"proj", ["internal"]⟩
          "example.com/app/internal" "Settings") ∧
    ownAnswer settingsSystem .empty [] ⟨"proj", ["internal"]⟩
        "example.com/app/internal" "Settings" =
      (.ok (.found (settingsRecord ⟨"proj", ["internal"]⟩
          "example.com/app/internal")),
        [(Path.components ⟨"proj", ["internal"]⟩,
          [settingsRecord ⟨"proj", ["internal"]⟩
            "example.com/app/internal"])]) := by
  have bound : Import.bound? "internal" [⟨"example.com/app/internal", none⟩] =
      some ⟨"example.com/app/internal", none⟩ := by
    decide +kernel
  have own : settingsResolver.Owns "example.com/app/internal"
      ⟨"proj", ["internal"]⟩ :=
    .below "internal"
  refine ⟨(resolve_eq_ownAnswer_iff bound own).1.mpr (.inl ?_), ?_⟩
  · decide
  · decide +kernel

/-- The package at the root is not looked for in the project: its type is
declared there, and yet its dependency root is found missing. -/
theorem resolve_root_settings :
    settingsResolver.Owns "example.com/app" ⟨"proj", []⟩ ∧
      ownAnswer settingsSystem .empty [] ⟨"proj", []⟩ "example.com/app"
          "Settings" =
        (.ok (.found (settingsRecord ⟨"proj", []⟩ "example.com/app")),
          [(Path.components ⟨"proj", []⟩,
            [settingsRecord ⟨"proj", []⟩ "example.com/app"])]) ∧
      settingsResolver.resolve settingsSystem .empty [] "app" "Settings"
          [⟨"example.com/app", none⟩] =
        (.error (.dependencyRootNotFound "example.com/app"), []) := by
  refine ⟨.root, ?_, ?_⟩
  · decide +kernel
  · decide +kernel

end Resolver
end Dependency
end EnvTags
