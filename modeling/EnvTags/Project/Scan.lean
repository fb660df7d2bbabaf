import EnvTags.Go.Declarations
import EnvTags.Go.Grammar.SourceFile
import EnvTags.ImportPath
import EnvTags.Manifest
import EnvTags.Project.SourceFiles

/-!
# Scanning source files

A source file is read, parsed and given the identity of its package. In the
project itself the identity comes from the module path and the directory of the
file; in a dependency every file has the same given identity.
-/

namespace EnvTags
namespace Project

/-- How a source file gets the identity of its package. -/
inductive Scope
  /-- From the module path and the place of the file below the root. -/
  | project (root : Path) (modulePath : String)
  /-- The same for every file. -/
  | fixed (identity : String)
  deriving DecidableEq

/-- The names of the directories between the root of a project and a file. If
the file is not below the root they are all names of its directory. -/
def namesBelow (root file : Path) : List Name :=
  let directory := (file.parent?.getD file).components
  let relative :=
    (Path.componentsAfter? root.components directory).getD directory
  relative.filterMap Path.Component.name?

/-- The identity of the package of a file. A main package has the path of its
module, wherever it is. -/
def Scope.identity (scope : Scope) (file : Path) (packageName : String) : String :=
  match scope with
  | .fixed identity => identity
  | .project root modulePath =>
      if packageName = "main" then modulePath
      else ImportPath.join modulePath (namesBelow root file)

/-- The source file with given declarations. -/
def sourceFile
    (scope : Scope)
    (path : Path)
    (declared : Go.Declarations) : SourceFile :=
  let package := scope.identity path declared.packageName
  { path := path
    package := package
    imports := declared.imports
    records := declared.structs.map fun struct =>
      ⟨path, package, struct.name, struct.fields, declared.imports⟩ }

/-- Read and parse one source file. -/
def scanFile (system : FileSystem) (scope : Scope) (path : Path) :
    Except AnalysisError SourceFile :=
  match system.readText path with
  | .error failure => .error (.inaccessible path failure)
  | .ok source =>
      match Go.parse source with
      | none => .error (.syntaxError path)
      | some tree => .ok (sourceFile scope path (Go.Declarations.ofTree tree))

/-- Read and parse source files. The first failure counts. -/
def scanFiles (system : FileSystem) (scope : Scope) :
    List Path → Except AnalysisError (List SourceFile)
  | [] => .ok []
  | path :: paths =>
      match scanFile system scope path with
      | .error error => .error error
      | .ok file =>
          match scanFiles system scope paths with
          | .error error => .error error
          | .ok files => .ok (file :: files)

/-- Scan the source files of one directory. -/
def scanDirectory (system : FileSystem) (scope : Scope) (directory : Path) :
    Except AnalysisError (List SourceFile) :=
  match directoryFiles system directory with
  | .error error => .error error
  | .ok paths => scanFiles system scope paths

/-- Scan all source files of a project. -/
def scan
    (system : FileSystem)
    (root : Path)
    (modulePath : String)
    (exclusions : Exclusions) : Except AnalysisError (List SourceFile) :=
  match sourceFiles system root exclusions with
  | .error error => .error error
  | .ok paths => scanFiles system (.project root modulePath) paths

/-- The path of the manifest of a project. -/
def manifestPath (root : Path) : Path :=
  root.child Manifest.fileName

/-- The module path that the manifest of a project declares. -/
def modulePath (system : FileSystem) (root : Path) :
    Except AnalysisError String :=
  match system.readText (manifestPath root) with
  | .error .notFound => .error (.manifestNotFound root)
  | .error failure => .error (.inaccessible (manifestPath root) failure)
  | .ok content =>
      match Manifest.modulePath? content with
      | none => .error (.moduleDirectiveMissing (manifestPath root))
      | some path => .ok path

end Project
end EnvTags
