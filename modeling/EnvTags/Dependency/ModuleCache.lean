import EnvTags.AnalysisError
import EnvTags.Dependency.Version
import EnvTags.ImportPath

/-!
# Module caches

A module cache holds the sources of dependencies under their escaped import
paths, where a directory may carry a version. An import path is walked segment by
segment: the directory with the segment's own name comes first, else the one with
the highest version. The walk ends at the deepest directory it can reach.
-/

namespace EnvTags
namespace Dependency

/-- The segments of an import path, empty ones left out. -/
def segments (importPath : String) : List String :=
  (Text.parts '/' importPath).filter fun segment => segment != ""

/-- The version that a name gives to a segment, as it is read. -/
def version? (segment : String) (name : Name) : Option String :=
  (Text.after? (segment ++ "@").toList name.read.toList).map String.ofList

/-- The better of a directory found so far and a named entry. -/
def betterVersion
    (segment : String)
    (best : Option (VersionKey × Name))
    (entry : Name × Entry) : Option (VersionKey × Name) :=
  match version? segment entry.1 with
  | none => best
  | some version =>
      if entry.2.isDirectory then
        let key := VersionKey.ofVersion version
        match best with
        | none => some (key, entry.1)
        | some (bestKey, name) =>
            if bestKey.isBelow key then some (key, entry.1)
            else some (bestKey, name)
      else best

/-- The name of the directory with the highest version of a segment, the first one
in the order of the system where several have the same. -/
def highestVersion? (segment : String) (entries : List (Name × Entry)) :
    Option Name :=
  (entries.foldl (betterVersion segment) none).map Prod.snd

/-- The directory with the highest version of a segment. -/
def versionedDirectory
    (system : FileSystem)
    (directory : Path)
    (segment : String) : Except AnalysisError (Option Path) :=
  match system.readDirectory directory with
  | .error failure => .error (.inaccessible directory failure)
  | .ok entries => .ok ((highestVersion? segment entries).map directory.child)

/-- The directory for one segment. -/
def segmentDirectory
    (system : FileSystem)
    (directory : Path)
    (segment : String) : Except AnalysisError (Option Path) :=
  if system.isDirectory (directory.child segment) then
    .ok (some (directory.child segment))
  else versionedDirectory system directory segment

/-- The deepest directory that is reached from a directory by escaped
segments. -/
def deepestDirectory (system : FileSystem) (directory : Path) :
    List String → Except AnalysisError Path
  | [] => .ok directory
  | segment :: segments =>
      match segmentDirectory system directory segment with
      | .error error => .error error
      | .ok none => .ok directory
      | .ok (some next) => deepestDirectory system next segments

/-- The directory of a package in a module cache, absent when not even the first
segment is there. -/
def locateInCache (system : FileSystem) (cache : Path) (importPath : String) :
    Except AnalysisError (Option Path) :=
  match segments (ImportPath.escape importPath) with
  | [] => .ok none
  | first :: others =>
      match segmentDirectory system cache first with
      | .error error => .error error
      | .ok none => .ok none
      | .ok (some next) =>
          match deepestDirectory system next others with
          | .error error => .error error
          | .ok directory => .ok (some directory)

/-- The module cache that two settings name: the cache itself, else the place of
the cache below the first directory of a search path. It has to be a
directory. -/
def moduleCache?
    (system : FileSystem)
    (cache : Option Path)
    (searchPath : Option String) : Option Path :=
  let named := cache.filter fun path => path != Path.empty
  let derived := searchPath.bind fun text =>
    ((Text.parts ':' text).find? fun part => part != "").map fun part =>
      ((Path.ofString part).child "pkg").child "mod"
  (named.or derived).filter system.isDirectory

end Dependency
end EnvTags
