import EnvTags.Dependency.Resolver

/-!
# Faults of files and directories

A scan and a walk through a module cache fail in two ways only: a file or
directory cannot be read, or a source file has a syntax error. Every other error
of an analysis is raised on purpose, where its reason is found.
-/

namespace EnvTags

/-- Whether an error is the fault of a file or directory. -/
def AnalysisError.IsFault : AnalysisError → Prop
  | syntaxError _ | inaccessible _ _ => True
  | _ => False

namespace Project

/-- A file fails to be scanned by a fault. -/
theorem isFault_of_scanFile
    {system : FileSystem}
    {scope : Scope}
    {path : Path}
    {error : AnalysisError}
    (failed : scanFile system scope path = .error error) :
    error.IsFault := by
  unfold scanFile at failed
  split at failed
  · cases failed
    trivial
  · split at failed
    · cases failed
      trivial
    · cases failed

theorem isFault_of_scanFiles
    {system : FileSystem}
    {scope : Scope}
    {paths : List Path}
    {error : AnalysisError}
    (failed : scanFiles system scope paths = .error error) :
    error.IsFault := by
  induction paths with
  | nil => cases failed
  | cons path paths inductionHypothesis =>
      cases first : scanFile system scope path with
      | error cause =>
          simp only [scanFiles, first, Except.error.injEq] at failed
          exact failed ▸ isFault_of_scanFile first
      | ok file =>
          cases rest : scanFiles system scope paths with
          | error cause =>
              simp only [scanFiles, first, rest, Except.error.injEq] at failed
              exact inductionHypothesis (failed ▸ rest)
          | ok files => simp [scanFiles, first, rest] at failed

end Project

namespace Dependency

/-- A directory fails to be scanned by a fault. -/
theorem isFault_of_packageRecords
    {system : FileSystem}
    {directory : Path}
    {package : String}
    {error : AnalysisError}
    (failed : packageRecords system directory package = .error error) :
    error.IsFault := by
  unfold packageRecords Project.scanDirectory Project.directoryFiles at failed
  cases read : system.readDirectory directory with
  | error failure =>
      simp only [read, Except.error.injEq] at failed
      subst failed
      trivial
  | ok entries =>
      simp only [read] at failed
      split at failed
      · rename_i cause scanned
        cases failed
        exact Project.isFault_of_scanFiles scanned
      · cases failed

theorem isFault_of_scanPackage
    {system : FileSystem}
    {cache next : ScanCache}
    {directory : Path}
    {package : String}
    {error : AnalysisError}
    (failed : scanPackage system cache directory package =
      (.error error, next)) :
    error.IsFault := by
  unfold scanPackage at failed
  cases known : cache.records? directory with
  | some records => simp [known] at failed
  | none =>
      cases read : packageRecords system directory package with
      | error cause =>
          simp only [known, read, Prod.mk.injEq, Except.error.injEq] at failed
          exact failed.1 ▸ isFault_of_packageRecords read
      | ok records => simp [known, read] at failed

/-! ## Walks through a module cache -/

theorem isFault_of_segmentDirectory
    {system : FileSystem}
    {directory : Path}
    {segment : String}
    {error : AnalysisError}
    (failed : segmentDirectory system directory segment = .error error) :
    error.IsFault := by
  unfold segmentDirectory versionedDirectory at failed
  split at failed
  · cases failed
  · split at failed
    · cases failed
      trivial
    · cases failed

theorem isFault_of_deepestDirectory
    {system : FileSystem}
    {directory : Path}
    {segments : List String}
    {error : AnalysisError}
    (failed : deepestDirectory system directory segments = .error error) :
    error.IsFault := by
  induction segments generalizing directory with
  | nil => cases failed
  | cons segment segments inductionHypothesis =>
      unfold deepestDirectory at failed
      split at failed
      · rename_i cause entered
        cases failed
        exact isFault_of_segmentDirectory entered
      · cases failed
      · exact inductionHypothesis failed

/-- The walk through a module cache fails by a fault. -/
theorem isFault_of_locateInCache
    {system : FileSystem}
    {cache : Path}
    {importPath : String}
    {error : AnalysisError}
    (failed : locateInCache system cache importPath = .error error) :
    error.IsFault := by
  unfold locateInCache at failed
  split at failed
  · cases failed
  · split at failed
    · rename_i cause entered
      cases failed
      exact isFault_of_segmentDirectory entered
    · cases failed
    · split at failed
      · rename_i cause deepest
        cases failed
        exact isFault_of_deepestDirectory deepest
      · cases failed

end Dependency
end EnvTags
