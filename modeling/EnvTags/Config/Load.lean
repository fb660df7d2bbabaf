import EnvTags.Config.Read
import EnvTags.FileSystem.Access

/-!
# Finding a configuration

A configuration file is looked for in a directory and then in its parents, as far
as the path goes. The search ends at a directory under version control, unless
the file is there. Without a file the defaults hold.
-/

namespace EnvTags
namespace Config

/-- The name of a configuration file. -/
def fileName : String := ".goprintenv.json"

/-- The name of the entry at which the search ends. -/
def boundaryName : String := ".git"

/-- The first configuration file in some directories, in order. -/
def firstFile? (system : FileSystem) : List Path → Option Path
  | [] => none
  | directory :: directories =>
      if system.contains (directory.child fileName) then
        some (directory.child fileName)
      else if system.contains (directory.child boundaryName) then none
      else firstFile? system directories

/-- The configuration file for a directory. -/
def findFile? (system : FileSystem) (start : Path) : Option Path :=
  firstFile? system start.ancestors

/-- Why a configuration cannot be loaded. -/
inductive LoadError
  /-- The file cannot be read. -/
  | unreadable (file : Path) (cause : FileSystem.Failure)
  /-- The file does not write a configuration. -/
  | malformed (file : Path)
  /-- The configuration is not valid. -/
  | invalid (problem : Problem)
  deriving DecidableEq

/-- The words for an error, without its cause. -/
def LoadError.message : LoadError → String
  | unreadable file _ => "Failed to read config file: " ++ file.shown
  | malformed file => "Failed to parse config file: " ++ file.shown
  | invalid problem => problem.message

/-- A configuration and where it comes from. -/
structure Loaded where
  /-- The configuration. -/
  config : Config
  /-- Whether a file gives it. -/
  fromFile : Bool
  deriving DecidableEq

/-- The configuration in a file. -/
def readFile (system : FileSystem) (file : Path) : Except LoadError Config :=
  match system.readText file with
  | .error failure => .error (.unreadable file failure)
  | .ok text =>
      match parse? text with
      | none => .error (.malformed file)
      | some config =>
          match config.problem? with
          | some problem => .error (.invalid problem)
          | none => .ok config

/-- The configuration for a directory. -/
def load (system : FileSystem) (start : Path) : Except LoadError Loaded :=
  match findFile? system start with
  | none => .ok ⟨{}, false⟩
  | some file =>
      match readFile system file with
      | .error error => .error error
      | .ok config => .ok ⟨config, true⟩

end Config
end EnvTags
