import EnvTags.Analysis
import EnvTags.Command.Arguments
import EnvTags.Config.Load
import EnvTags.Config.Write

/-!
# Reports

The command prints the variables of a project, or creates a configuration file
with the default settings where there is none yet. A report says what was done.
-/

namespace EnvTags
namespace Command

/-- Why the command fails. -/
inductive Failure
  /-- The configuration cannot be loaded. -/
  | configuration (error : Config.LoadError)
  /-- The project cannot be analysed. -/
  | analysis (path : Path) (error : AnalysisError)
  /-- There is a configuration file already. -/
  | alreadyConfigured
  /-- The configuration file cannot be written. -/
  | unwritable (file : Path) (cause : FileSystem.Failure)
  deriving DecidableEq

namespace Failure

/-- The words for a failure, without its cause. -/
def message : Failure → String
  | configuration error => error.message
  | analysis path error =>
      "Failed to analyze " ++ path.text ++ ": " ++ error.message
  | alreadyConfigured => Config.fileName ++ " already exists"
  | unwritable file _ => "Failed to write " ++ file.text

/-- The words for the cause of a failure. -/
def cause? : Failure → Option String
  | configuration (.unreadable _ cause) => some cause.text
  | configuration _ => none
  | analysis _ error => error.cause?
  | alreadyConfigured => none
  | unwritable _ cause => some cause.text

/-- The words for a failure and its cause. -/
def fullMessage (failure : Failure) : String :=
  match failure.cause? with
  | none => failure.message
  | some cause => failure.message ++ ": " ++ cause

end Failure

/-- The variables of a project and how they were found. -/
structure Printing where
  /-- The analysis of the project. -/
  analysis : Analysis
  /-- Whether a file gives the configuration. -/
  configFromFile : Bool
  /-- The module cache, if there is one. -/
  moduleCache : Option Path
  deriving DecidableEq

/-- What the command has done. -/
inductive Report
  /-- The variables of a project are listed. -/
  | printed (printing : Printing)
  /-- A configuration file is created. -/
  | created (file : Path)
  deriving DecidableEq

/-- List the variables of a project. -/
def print (system : FileSystem) (arguments : Arguments) :
    Except Failure Printing :=
  match Config.load system arguments.path with
  | .error error => .error (.configuration error)
  | .ok loaded =>
      let moduleCache :=
        Dependency.moduleCache? system arguments.moduleCache arguments.searchPath
      match Analysis.run system ⟨arguments.path, loaded.config, moduleCache⟩ with
      | .error error => .error (.analysis arguments.path error)
      | .ok analysis => .ok ⟨analysis, loaded.fromFile, moduleCache⟩

/-- Create a configuration file in a directory. -/
def create (system : FileSystem) (directory : Path) :
    Except Failure (Path × FileSystem) :=
  let file := directory.child Config.fileName
  if system.contains file then .error .alreadyConfigured
  else
    match system.writeText file (Config.write {}) with
    | .error failure => .error (.unwritable file failure)
    | .ok next => .ok (file, next)

/-- Do what is asked for. A failure leaves the files as they are. -/
def run (system : FileSystem) (arguments : Arguments) :
    Except Failure Report × FileSystem :=
  match arguments.createIn with
  | some directory =>
      match create system directory with
      | .error failure => (.error failure, system)
      | .ok (file, next) => (.ok (.created file), next)
  | none =>
      match print system arguments with
      | .error failure => (.error failure, system)
      | .ok printing => (.ok (.printed printing), system)

end Command
end EnvTags
