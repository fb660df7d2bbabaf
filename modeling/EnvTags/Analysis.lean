import EnvTags.Config.Basic
import EnvTags.Expansion.Bound

/-!
# Analyses

An analysis reads the module path of a project, scans its source files, and
expands the root records of their graph.
-/

namespace EnvTags

/-- The result of an analysis. -/
structure Analysis where
  /-- The variables: roots in the order of discovery, fields in the order of
  declaration. -/
  entries : List Variable
  /-- The fields that were left out. -/
  diagnostics : List Diagnostic
  /-- The module path of the project. -/
  modulePath : String
  /-- The number of source files of the project. -/
  filesScanned : Nat
  /-- The number of records in the graph. -/
  recordCount : Nat
  /-- The number of root records. -/
  rootCount : Nat
  /-- The number of directories scanned for nested records. -/
  directoriesScanned : Nat
  deriving DecidableEq

namespace Analysis

/-- What an analysis is asked to do. -/
structure Request where
  /-- The root of the project. -/
  root : Path
  /-- The settings. -/
  config : Config := {}
  /-- The module cache, if there is one. -/
  moduleCache : Option Path := none

namespace Request

/-- The entries of the project that are left out. -/
def exclusions (request : Request) : Project.Exclusions :=
  ⟨request.config.vendorDirectory, request.config.ignoredGlobs⟩

/-- Where the packages of a project are looked for. -/
def resolver (request : Request) (modulePath : String) : Dependency.Resolver where
  projectRoot := request.root
  modulePath := modulePath
  vendorDirectory :=
    request.root.join (Path.ofString request.config.vendorDirectory)
  moduleCache := request.moduleCache

/-- The setting in which the records of a project are expanded. -/
def setting
    (request : Request)
    (system : FileSystem)
    (modulePath : String)
    (files : List SourceFile) : Expansion.Setting where
  system := system
  graph := Graph.ofFiles files
  scheme := request.config.scheme
  resolver := request.resolver modulePath

end Request

/-- Expand the roots of a graph, with a bound for all of them. -/
def expandRoots (setting : Expansion.Setting) (roots : List Record) :
    Expansion.Step (List Variable) :=
  let depth := Expansion.keyCount setting {} roots
  Expansion.expandAll (Expansion.expandWithin setting depth) roots {}

/-- The result for the scanned files of a project. -/
def ofFiles
    (system : FileSystem)
    (request : Request)
    (modulePath : String)
    (files : List SourceFile) : Except AnalysisError Analysis :=
  let setting := request.setting system modulePath files
  let roots := setting.graph.roots setting.scheme
  match expandRoots setting roots with
  | (.error error, _) => .error error
  | (.ok entries, state) =>
      .ok { entries := entries
            diagnostics := state.diagnostics
            modulePath := modulePath
            filesScanned := files.length
            recordCount := setting.graph.records.length
            rootCount := roots.length
            directoriesScanned := state.cache.length }

/-- Analyse a project. -/
def run (system : FileSystem) (request : Request) : Except AnalysisError Analysis :=
  match Project.modulePath system request.root with
  | .error error => .error error
  | .ok modulePath =>
      match Project.scan system request.root modulePath request.exclusions with
      | .error error => .error error
      | .ok files => ofFiles system request modulePath files

end Analysis
end EnvTags
