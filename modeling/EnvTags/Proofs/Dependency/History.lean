import EnvTags.Proofs.Dependency.Resolve
import EnvTags.Proofs.Project.Scan
import Mathlib.Data.List.Basic

/-!
# What a resolver remembers

A resolver is asked one query after the other. What it knows of a directory is
what the first query that could read the directory has found there, and these
records keep the package of that query. A later query for another package in the
same directory is answered with the same records, so the package of its answer
depends on the history. The main statement says exactly when it does.
-/

namespace EnvTags
namespace Dependency

/-- A question to a resolver. -/
inductive Query
  /-- Look for a qualified type. -/
  | resolve
      (graph : Graph)
      (packageName typeName : String)
      (imports : List Import)
  /-- List the records of a directory. -/
  | scan (directory : Path) (package : String)

/-- The records of a directory, as they were read for a package. -/
structure Scan where
  /-- The directory. -/
  directory : Path
  /-- The package for which it was read. -/
  package : String
  /-- The records found. -/
  records : List Record
  deriving DecidableEq

namespace Query

/-- The directories known after a query. -/
def after (resolver : Resolver) (system : FileSystem) (cache : ScanCache) :
    Query → ScanCache
  | resolve graph packageName typeName imports =>
      (resolver.resolve system graph cache packageName typeName imports).2
  | scan directory package => (scanPackage system cache directory package).2

/-- The directory that a query looks into, and the package for which it does. -/
def target? (resolver : Resolver) (system : FileSystem) :
    Query → Option (Path × String)
  | resolve graph packageName typeName imports =>
      match Import.bound? packageName imports with
      | none => none
      | some imported =>
          match graph.find? ⟨imported.path, typeName⟩ with
          | some _ => none
          | none =>
              match resolver.locate system imported.path with
              | .ok (some directory) => some (directory, imported.path)
              | _ => none
  | scan directory package => some (directory, package)

/-- What a query finds when it has to read the directory it looks into. -/
def scan? (resolver : Resolver) (system : FileSystem) (query : Query) :
    Option Scan :=
  match query.target? resolver system with
  | none => none
  | some (directory, package) =>
      match packageRecords system directory package with
      | .error _ => none
      | .ok records => some ⟨directory, package, records⟩

/-- What a query finds when it has to read one given directory. -/
def scanOf?
    (resolver : Resolver)
    (system : FileSystem)
    (directory : Path)
    (query : Query) : Option Scan :=
  (query.scan? resolver system).filter fun scan =>
    scan.directory.components = directory.components

end Query

/-- The directories known after some queries, from nothing known. -/
def known (resolver : Resolver) (system : FileSystem) (history : List Query) :
    ScanCache :=
  history.foldl (Query.after resolver system) []

/-- The first of some queries that can read a directory, and what it finds. -/
def firstScan?
    (resolver : Resolver)
    (system : FileSystem)
    (history : List Query)
    (directory : Path) : Option Scan :=
  history.findSome? (Query.scanOf? resolver system directory)

variable {resolver : Resolver} {system : FileSystem}

/-! ## What one query adds -/

/-- A query scans the directory that it looks into, and no other. -/
theorem Query.after_eq (cache : ScanCache) (query : Query) :
    query.after resolver system cache =
      match query.target? resolver system with
      | none => cache
      | some (directory, package) =>
          (scanPackage system cache directory package).2 := by
  cases query with
  | scan directory package => rfl
  | resolve graph packageName typeName imports =>
      simp only [after, target?]
      have step := resolver.resolve_step system graph cache packageName typeName
        imports
      generalize resolver.resolve system graph cache packageName typeName
        imports = result at step ⊢
      cases step with
      | unmatched unbound => simp [unbound]
      | inGraph imported bound record inGraph => simp [bound, inGraph]
      | unlocatable imported bound unknown error failed =>
          simp [bound, unknown, failed]
      | unlocated imported bound unknown absent => simp [bound, unknown, absent]
      | unreadable imported bound unknown directory located error next failed =>
          simp [bound, unknown, located, failed]
      | undeclared imported bound unknown directory located records next
          scanned =>
          simp [bound, unknown, located, scanned]
      | declared imported bound unknown directory located records next scanned =>
          simp [bound, unknown, located, scanned]

/-- A scan adds what it reads to what is known, where nothing was known. -/
theorem records?_scanPackage
    (cache : ScanCache)
    (looked directory : Path)
    (package : String) :
    (scanPackage system cache looked package).2.records? directory =
      (cache.records? directory).or
        (if looked.components = directory.components then
          (packageRecords system looked package).toOption
        else none) := by
  unfold scanPackage
  by_cases same : looked.components = directory.components
  · rw [if_pos same, ScanCache.records?, ScanCache.records?, same]
    cases before : cache.lookup directory.components with
    | some records => simp [ScanCache.records?, before]
    | none =>
        cases packageRecords system looked package with
        | error error => simp [ScanCache.records?, before, Except.toOption]
        | ok records => simp [ScanCache.records?, before, Except.toOption]
  · rw [if_neg same, Option.or_none]
    cases cache.records? looked with
    | some records => rfl
    | none =>
        cases packageRecords system looked package with
        | error error => rfl
        | ok records =>
            have different : (directory.components == looked.components) = false := by
              simpa using Ne.symm same
            simp [ScanCache.records?, List.lookup_cons, different]

/-- A query adds what it finds to what is known, where nothing was known. -/
theorem Query.records?_after
    (cache : ScanCache)
    (query : Query)
    (directory : Path) :
    (query.after resolver system cache).records? directory =
      (cache.records? directory).or
        ((query.scanOf? resolver system directory).map Scan.records) := by
  rw [Query.after_eq, scanOf?, scan?]
  rcases query.target? resolver system with _ | ⟨looked, package⟩
  · simp
  · simp only [records?_scanPackage]
    cases packageRecords system looked package with
    | error error => simp [Except.toOption]
    | ok records =>
        by_cases same : looked.components = directory.components <;>
          simp [Except.toOption, Option.filter, same]

/-! ## Histories -/

/-- What is known of a directory was found by the first query that could read
it. -/
theorem records?_known (history : List Query) (directory : Path) :
    (known resolver system history).records? directory =
      (firstScan? resolver system history directory).map Scan.records := by
  have grows : ∀ cache : ScanCache,
      (history.foldl (Query.after resolver system) cache).records? directory =
        (cache.records? directory).or
          ((firstScan? resolver system history directory).map Scan.records) := by
    induction history with
    | nil => simp [firstScan?]
    | cons query history inductionHypothesis =>
        intro cache
        rw [List.foldl_cons, inductionHypothesis, Query.records?_after,
          Option.or_assoc, firstScan?, firstScan?, List.findSome?_cons]
        cases query.scanOf? resolver system directory <;> simp
  rw [known, grows]
  rfl

/-- The records of a scan have the package for which they were read. -/
theorem package_of_firstScan?
    {history : List Query}
    {directory : Path}
    {scan : Scan}
    (first : firstScan? resolver system history directory = some scan)
    {record : Record}
    (present : record ∈ scan.records) :
    record.package = scan.package := by
  obtain ⟨query, -, isScan⟩ := List.exists_of_findSome?_eq_some first
  rw [Query.scanOf?, Option.filter_eq_some_iff, Query.scan?] at isScan
  rcases target : query.target? resolver system with _ | ⟨looked, package⟩
  · simp [target] at isScan
  · simp only [target] at isScan
    cases read : packageRecords system looked package with
    | error error => simp [read] at isScan
    | ok records =>
        simp only [read, Option.some.injEq] at isScan
        obtain ⟨rfl, -⟩ := isScan
        exact (mem_packageRecords read present).1

/-- After some queries the records of a directory have the package of the first
of them that could read it, and the package that is asked for if there is none. -/
theorem package_of_scanPackage
    {history : List Query}
    {directory : Path}
    {package : String}
    {records : List Record}
    {next : ScanCache}
    (scanned : scanPackage system (known resolver system history) directory
      package = (.ok records, next))
    {record : Record}
    (present : record ∈ records) :
    record.package =
      ((firstScan? resolver system history directory).map Scan.package).getD
        package := by
  have isKnown : (known resolver system history).records? directory = _ :=
    records?_known history directory
  unfold scanPackage at scanned
  cases first : firstScan? resolver system history directory with
  | some scan =>
      rw [first, Option.map_some] at isKnown
      simp only [isKnown, Prod.mk.injEq, Except.ok.injEq] at scanned
      rw [← scanned.1] at present
      exact package_of_firstScan? first present
  | none =>
      rw [first, Option.map_none] at isKnown
      cases read : packageRecords system directory package with
      | error error => simp [isKnown, read] at scanned
      | ok others =>
          simp only [isKnown, read, Prod.mk.injEq, Except.ok.injEq] at scanned
          rw [← scanned.1] at present
          exact (mem_packageRecords read present).1

/-- Whatever a resolver was asked before, a record that it finds has the name
that is asked for. It has the path of the import as its package exactly if it is
in the graph or the directory of the import was not read for another package
first. -/
theorem package_of_resolve_eq_path_iff
    (resolver : Resolver)
    (system : FileSystem)
    (history : List Query)
    {graph : Graph}
    {packageName typeName : String}
    {imports : List Import}
    {record : Record}
    {next : ScanCache}
    (resolved : resolver.resolve system graph (known resolver system history)
      packageName typeName imports = (.ok (.found record), next)) :
    ∃ imported, Import.bound? packageName imports = some imported ∧
      record.name = typeName ∧
      (record.package = imported.path ↔
        ∀ directory scan,
          graph.find? ⟨imported.path, typeName⟩ = none →
          resolver.locate system imported.path = .ok (some directory) →
          firstScan? resolver system history directory = some scan →
          scan.package = imported.path) := by
  have step := resolver.resolve_step system graph (known resolver system history)
    packageName typeName imports
  rw [resolved] at step
  cases step with
  | inGraph imported bound _ inGraph =>
      have key := (Graph.find?_eq_some inGraph).2
      rw [Record.key, Key.mk.injEq] at key
      refine ⟨imported, bound, key.2, ?_⟩
      simp [key.1, inGraph]
  | declared imported bound unknown directory located records _ scanned _ found =>
      have package := package_of_scanPackage scanned
        (List.mem_of_find?_eq_some found)
      refine ⟨imported, bound, by simpa using List.find?_some found, ?_⟩
      rw [package]
      constructor
      · rintro sameAsFirst other scan - isOther first
        obtain rfl : directory = other := by simpa [located] using isOther
        simpa [first] using sameAsFirst
      · intro onlyForPath
        cases first : firstScan? resolver system history directory with
        | none => rfl
        | some scan => exact onlyForPath directory scan unknown located first

/-! ## A package that stands in for another one -/

/-- A source file with one record. -/
def kitSource : String :=
  "package kit\n\ntype Settings struct \x7b\n" ++
    "\tKey string `env:\"KEY,default=k\"`\n\x7d\n"

/-- A module cache with one version of one module. -/
def kitSystem : FileSystem where
  root := .directory [
    ("proj", .directory [("go.mod", .file (.text "module example.com/app\n"))]),
    ("mod", .directory [("github.com", .directory [("acme", .directory [
      ("kit@v1.2.0", .directory [
        ("settings.go", .file (.text kitSource))])])])])]

/-- A resolver with that module cache. -/
def kitResolver : Resolver where
  projectRoot := ⟨"proj", []⟩
  modulePath := "example.com/app"
  vendorDirectory := ⟨"proj", ["vendor"]⟩
  moduleCache := some ⟨"mod", []⟩

/-- The directory of the module. -/
def kitDirectory : Path := ⟨"mod", ["github.com", "acme", "kit@v1.2.0"]⟩

/-- The record of the module, as it is read for a package. -/
def kitSettings (package : String) : Record where
  file := kitDirectory.child "settings.go"
  package := package
  name := "Settings"
  fields := [⟨"Key", "string", "env:\"KEY,default=k\""⟩]
  imports := []

/-- What is known once the module has been read for a package. -/
def kitCache (package : String) : ScanCache :=
  [(kitDirectory.components, [kitSettings package])]

/-- The question for the record of the module. -/
def kitQuery : Query :=
  .resolve .empty "kit" "Settings" [⟨"github.com/acme/kit", none⟩]

/-- The question for a record of a package that the module does not have. The
directory of the module stands in for it. -/
def missingQuery : Query :=
  .resolve .empty "kit" "Settings" [⟨"github.com/acme/kit/v2", some "kit"⟩]

theorem packageRecords_kit (package : String) :
    packageRecords kitSystem kitDirectory package =
      .ok [kitSettings package] := by
  have listed : Project.directoryFiles kitSystem kitDirectory =
      .ok [kitDirectory.child "settings.go"] := by
    decide +kernel
  have read : kitSystem.readText (kitDirectory.child "settings.go") =
      .ok kitSource := by
    decide +kernel
  have declared : (Go.parse kitSource).map Go.Declarations.ofTree =
      some ⟨"kit", [], [⟨"Settings", (kitSettings "").fields⟩]⟩ := by
    decide +kernel
  obtain ⟨tree, parsed, isDeclared⟩ := Option.map_eq_some_iff.mp declared
  simp only [packageRecords, Project.scanDirectory, listed, Project.scanFiles,
    Project.scanFile, read, parsed, isDeclared]
  rfl

theorem target?_kitQuery :
    kitQuery.target? kitResolver kitSystem =
        some (kitDirectory, "github.com/acme/kit") ∧
      missingQuery.target? kitResolver kitSystem =
        some (kitDirectory, "github.com/acme/kit/v2") := by
  decide +kernel

theorem bound?_kit :
    Import.bound? "kit" [⟨"github.com/acme/kit", none⟩] =
      some ⟨"github.com/acme/kit", none⟩ := by
  decide +kernel

/-- The question asked before decides under which package the module is known,
and the resolver answers from what is known. -/
theorem resolve_kit_after
    {query : Query}
    {package : String}
    (target : query.target? kitResolver kitSystem =
      some (kitDirectory, package)) :
    kitResolver.resolve kitSystem .empty (known kitResolver kitSystem [query]) "kit"
        "Settings" [⟨"github.com/acme/kit", none⟩] =
      (.ok (.found (kitSettings package)), kitCache package) := by
  have isKnown : known kitResolver kitSystem [query] = kitCache package := by
    simp [known, Query.after_eq, target, scanPackage, ScanCache.records?,
      packageRecords_kit, kitCache]
  have located : kitResolver.locate kitSystem "github.com/acme/kit" =
      .ok (some kitDirectory) := by
    decide +kernel
  have isCached : (kitCache package).records? kitDirectory =
      some [kitSettings package] := by
    simp [ScanCache.records?, kitCache]
  have named : (kitSettings package).name = "Settings" := rfl
  simp [isKnown, Resolver.resolve, bound?_kit, Graph.find?, Graph.node?,
    Graph.place?, Graph.empty, Resolver.resolveIn, located, scanPackage, isCached, named]

/-- Asked for the module twice, the resolver gives its path as the package. -/
theorem package_of_resolve_kit :
    kitResolver.resolve kitSystem .empty (known kitResolver kitSystem [kitQuery])
        "kit" "Settings" [⟨"github.com/acme/kit", none⟩] =
      (.ok (.found (kitSettings "github.com/acme/kit")),
        kitCache "github.com/acme/kit") ∧
    (kitSettings "github.com/acme/kit").package = "github.com/acme/kit" := by
  have resolved := resolve_kit_after target?_kitQuery.1
  obtain ⟨imported, bound, -, samePackage⟩ :=
    package_of_resolve_eq_path_iff kitResolver kitSystem _ resolved
  obtain rfl := Option.some.inj (bound?_kit.symm.trans bound)
  refine ⟨resolved, samePackage.mpr ?_⟩
  intro directory scan _ _ first
  obtain ⟨query, isQuery, isScan⟩ := List.exists_of_findSome?_eq_some first
  rw [List.mem_singleton.mp isQuery, Query.scanOf?,
    Option.filter_eq_some_iff] at isScan
  simp only [Query.scan?, target?_kitQuery.1, packageRecords_kit,
    Option.some.injEq] at isScan
  rw [← isScan.1]

/-- The answer for the module depends on the history: asked for the missing
package first, the resolver gives its path as the package of the module. -/
theorem package_ne_path_of_resolve_kit :
    kitResolver.resolve kitSystem .empty (known kitResolver kitSystem [missingQuery])
        "kit" "Settings" [⟨"github.com/acme/kit", none⟩] =
      (.ok (.found (kitSettings "github.com/acme/kit/v2")),
        kitCache "github.com/acme/kit/v2") ∧
    Import.bound? "kit" [⟨"github.com/acme/kit", none⟩] =
      some ⟨"github.com/acme/kit", none⟩ ∧
    (kitSettings "github.com/acme/kit/v2").package ≠ "github.com/acme/kit" := by
  exact ⟨resolve_kit_after target?_kitQuery.2, bound?_kit, by simp [kitSettings]⟩

end Dependency
end EnvTags
