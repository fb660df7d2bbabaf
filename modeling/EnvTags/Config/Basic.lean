import EnvTags.Glob
import EnvTags.Tag.Descriptor

/-!
# Configuration

A configuration says how tags are read, which directory holds vendored packages
and which entries of a project are ignored.
-/

namespace EnvTags

/-- The settings of an analysis. -/
structure Config where
  /-- The key, the container flag and the default flag of tags. -/
  scheme : Tag.Scheme := {}
  /-- The vendor directory, below the root of the project. -/
  vendorDirectory : String := "vendor"
  /-- Patterns for entries that are ignored. -/
  ignores : List String := []
  deriving DecidableEq

namespace Config

/-- Why a configuration is not valid. -/
inductive Problem
  /-- A setting is empty. -/
  | empty (setting : String)
  /-- A pattern is not valid. -/
  | invalidPattern (pattern : String)
  deriving DecidableEq

/-- The words for a problem. -/
def Problem.message : Problem → String
  | empty setting => "'" ++ setting ++ "' must not be empty"
  | invalidPattern pattern =>
      "Invalid glob pattern in 'ignores': \"" ++ pattern ++ "\""

/-- The settings that must not be empty, with their names. -/
def requiredSettings (config : Config) : List (String × String) :=
  [("tagKey", config.scheme.key), ("prefixFlag", config.scheme.containerFlag),
   ("defaultFlag", config.scheme.defaultFlag),
   ("vendorDir", config.vendorDirectory)]

/-- The first problem of a configuration: an empty setting, else a pattern that
is not valid. -/
def problem? (config : Config) : Option Problem :=
  match config.requiredSettings.find? fun setting => setting.2 == "" with
  | some setting => some (.empty setting.1)
  | none =>
      (config.ignores.find? fun pattern => (Glob.ofString? pattern).isNone).map
        .invalidPattern

/-- The valid ones among the patterns to ignore. -/
def ignoredGlobs (config : Config) : List Glob :=
  config.ignores.filterMap Glob.ofString?

end Config
end EnvTags
