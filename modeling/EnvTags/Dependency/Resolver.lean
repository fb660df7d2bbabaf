import EnvTags.Dependency.ModuleCache
import EnvTags.Graph
import EnvTags.Project.Scan

/-!
# Resolving qualified references

A qualified type is looked for in the package that its file imports: first in the
graph of the project, then in the directory of the package. Packages of the
project itself are in the project, others in the vendor directory or in the
module cache. A directory is scanned when a type in it is first asked for, and
the records found then stay known.
-/

namespace EnvTags
namespace Dependency

/-- Where packages are looked for. -/
structure Resolver where
  /-- The root of the project. -/
  projectRoot : Path
  /-- The module path of the project. -/
  modulePath : String
  /-- The vendor directory. -/
  vendorDirectory : Path
  /-- The module cache, if there is one. -/
  moduleCache : Option Path

/-- The directories scanned so far, by their components, with the records found
in them. -/
abbrev ScanCache := List (List Path.Component × List Record)

/-- The outcome of looking for a qualified type. -/
inductive Resolution
  /-- The record. -/
  | found (record : Record)
  /-- No import fits the name of the package. -/
  | importNotMatched
  /-- The imported package, or the type in it, is not there. -/
  | notFound (importPath : String)
  deriving DecidableEq

/-- The records scanned in a directory before. -/
def ScanCache.records? (cache : ScanCache) (directory : Path) :
    Option (List Record) :=
  cache.lookup directory.components

/-- The records declared in a directory, the first one with each name. -/
def packageRecords (system : FileSystem) (directory : Path) (package : String) :
    Except AnalysisError (List Record) :=
  match Project.scanDirectory system (.fixed package) directory with
  | .error error => .error error
  | .ok files =>
      .ok (Record.firstBy Record.name (files.flatMap SourceFile.records))

/-- The records of a directory, which is scanned only once. A failure leaves the
cache as it is. -/
def scanPackage
    (system : FileSystem)
    (cache : ScanCache)
    (directory : Path)
    (package : String) : Except AnalysisError (List Record) × ScanCache :=
  match cache.records? directory with
  | some records => (.ok records, cache)
  | none =>
      match packageRecords system directory package with
      | .error error => (.error error, cache)
      | .ok records => (.ok records, (directory.components, records) :: cache)

namespace Resolver

/-- What an import path has after the module path and a slash. -/
def projectPart? (resolver : Resolver) (importPath : String) : Option String :=
  (Text.after? (resolver.modulePath ++ "/").toList importPath.toList).map
    String.ofList

/-- The directory that an import path has below another one. -/
def directoryBelow (base : Path) (importPath : String) : Path :=
  ((segments importPath).map Name.text).foldl Path.child base

/-- The directory of a package, absent when it does not exist. -/
def locate (resolver : Resolver) (system : FileSystem) (importPath : String) :
    Except AnalysisError (Option Path) :=
  match resolver.projectPart? importPath with
  | some rest =>
      let directory := directoryBelow resolver.projectRoot rest
      .ok (if system.isDirectory directory then some directory else none)
  | none =>
      let vendored := directoryBelow resolver.vendorDirectory importPath
      if system.isDirectory vendored then .ok (some vendored)
      else
        match resolver.moduleCache with
        | none => .error (.dependencyRootNotFound importPath)
        | some cache => locateInCache system cache importPath

/-- Look for a type in the package with an import path, outside of the graph. -/
def resolveIn
    (resolver : Resolver)
    (system : FileSystem)
    (cache : ScanCache)
    (importPath typeName : String) :
    Except AnalysisError Resolution × ScanCache :=
  match resolver.locate system importPath with
  | .error error => (.error error, cache)
  | .ok none => (.ok (.notFound importPath), cache)
  | .ok (some directory) =>
      match scanPackage system cache directory importPath with
      | (.error error, next) => (.error error, next)
      | (.ok records, next) =>
          match records.find? fun record => record.name = typeName with
          | none => (.ok (.notFound importPath), next)
          | some record => (.ok (.found record), next)

/-- Look for a qualified type. -/
def resolve
    (resolver : Resolver)
    (system : FileSystem)
    (graph : Graph)
    (cache : ScanCache)
    (packageName typeName : String)
    (imports : List Import) :
    Except AnalysisError Resolution × ScanCache :=
  match Import.bound? packageName imports with
  | none => (.ok .importNotMatched, cache)
  | some imported =>
      match graph.find? ⟨imported.path, typeName⟩ with
      | some record => (.ok (.found record), cache)
      | none => resolver.resolveIn system cache imported.path typeName

end Resolver
end Dependency
end EnvTags
