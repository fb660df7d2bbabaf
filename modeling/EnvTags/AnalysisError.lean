import EnvTags.FileSystem.Access

/-!
# Errors of an analysis

An error stops the whole analysis, and no variable is listed.
-/

namespace EnvTags

/-- Why an analysis has no result. -/
inductive AnalysisError
  /-- The project has no manifest. -/
  | manifestNotFound (root : Path)
  /-- The manifest does not name its module. -/
  | moduleDirectiveMissing (manifest : Path)
  /-- A dependency is neither vendored nor is there a module cache. -/
  | dependencyRootNotFound (importPath : String)
  /-- A source file has a syntax error. -/
  | syntaxError (file : Path)
  /-- A file or directory cannot be read. -/
  | inaccessible (path : Path) (cause : FileSystem.Failure)
  /-- The tree of the project cannot be walked. -/
  | unwalkable (cause : FileSystem.Failure)
  /-- Records are nested deeper than there are records. -/
  | tooDeep
  deriving DecidableEq

namespace AnalysisError

/-- The words for an error, without its cause and without the place in a file where
its syntax fails. -/
def message : AnalysisError → String
  | manifestNotFound root => "go.mod not found in " ++ root.text
  | moduleDirectiveMissing manifest =>
      "no module directive in " ++ manifest.text
  | dependencyRootNotFound importPath =>
      "cannot locate dependency " ++ importPath ++
        ": no vendor directory and no module cache root"
  | syntaxError file => "failed to parse " ++ file.text
  | inaccessible path _ => "failed to access " ++ path.text
  | unwalkable _ => "failed to walk project tree"
  | tooDeep => "records are nested too deep"

/-- The words for a syntax error name the file. -/
theorem names_file (file : Path) :
    file.text.toList <:+: (syntaxError file).message.toList := by
  have shown : (syntaxError file).message.toList =
      "failed to parse ".toList ++ file.text.toList := String.toList_append
  rw [shown]
  exact (List.suffix_append _ _).isInfix

/-- The words for the cause of an error. -/
def cause? : AnalysisError → Option String
  | inaccessible _ cause => some cause.text
  | unwalkable cause => some cause.text
  | _ => none

end AnalysisError
end EnvTags
