import EnvTags.AnalysisError
import EnvTags.Glob

/-!
# The source files of a project

A project is walked from its root, in the order of names. Entries whose name
starts with a dot, vendor directories and entries that a pattern ignores are left
out with all that is in them; the root itself never is. The files of a single
directory are listed without these rules.
-/

namespace EnvTags
namespace Project

/-- The extension of source files. -/
def sourceExtension : String := "go"

/-- Whether a name is that of a source file. -/
def isSourceName (name : Name) : Bool :=
  Path.extension? name.read == some sourceExtension

/-- Whether an entry is to be ignored, given the names that lead to it from the
root. -/
abbrev Ignore := List Name → Bool

/-- A pattern ignores the entries that it matches. -/
instance : Coe (List Glob) (List Ignore) :=
  ⟨List.map Glob.matchesNames⟩

/-- Which entries are left out of a walk. -/
structure Exclusions where
  /-- The vendor directory. -/
  vendorDirectory : String
  /-- What is to be ignored. -/
  ignored : List Ignore

namespace Exclusions

/-- Whether the names of a directory are those of the vendor directory. One that
is a single name is found at any depth, a longer one only from the root. -/
def isVendor (exclusions : Exclusions) (names : List Name) : Bool :=
  let vendor := Path.ofString exclusions.vendorDirectory
  if vendor.components.length = 1 then
    names.getLast? == some (.text exclusions.vendorDirectory)
  else names.map Path.Component.name == vendor.components

/-- Whether a name starts with a dot. -/
def isHidden (name : Name) : Bool :=
  name.read.toList.head? == some '.'

/-- Whether the entry at the end of a row of names below the root is left
out. -/
def excludes
    (exclusions : Exclusions)
    (names : List Name)
    (entry : Entry) : Bool :=
  (names.getLast?.any isHidden) ||
    (entry.isDirectory && exclusions.isVendor names) ||
    exclusions.ignored.any fun ignores => ignores names

end Exclusions

mutual

/-- The source files of a tree that are not left out, by the names that lead to
them from the root. -/
def filesBelow (exclusions : Exclusions) (names : List Name) :
    Entry → List (List Name)
  | .file _ =>
      if names.getLast?.any isSourceName then [names] else []
  | .directory entries => filesAmong exclusions names entries

/-- The source files of the trees in a directory that are not left out. -/
def filesAmong (exclusions : Exclusions) (names : List Name) :
    List (Name × Entry) → List (List Name)
  | [] => []
  | (name, entry) :: entries =>
      (if exclusions.excludes (names ++ [name]) entry then []
      else filesBelow exclusions (names ++ [name]) entry) ++
        filesAmong exclusions names entries

end

/-- The path that a row of names has below a directory. -/
def pathBelow (root : Path) (names : List Name) : Path :=
  names.foldl Path.child root

/-- The source files of a tree with their paths. A root that is a file itself is
listed if its own name is that of a source file. -/
def filesOf (exclusions : Exclusions) (root : Path) : Entry → List Path
  | .file _ => if root.fileName?.any isSourceName then [root] else []
  | .directory entries =>
      (filesAmong exclusions [] entries).map (pathBelow root)

/-- All source files of a project, in the order of names. -/
def sourceFiles (system : FileSystem) (root : Path) (exclusions : Exclusions) :
    Except AnalysisError (List Path) :=
  match system.entry root with
  | .error failure => .error (.unwalkable failure)
  | .ok entry => .ok (filesOf exclusions root entry.sorted)

/-- Whether a named entry is a source file. -/
def isSourceFile (entry : Name × Entry) : Bool :=
  !entry.2.isDirectory && isSourceName entry.1

/-- The source files of one directory, in the order of names. -/
def directoryFiles (system : FileSystem) (directory : Path) :
    Except AnalysisError (List Path) :=
  match system.readDirectory directory with
  | .error failure => .error (.inaccessible directory failure)
  | .ok entries =>
      .ok ((Entry.sortByName (entries.filter isSourceFile)).map fun entry =>
        directory.child entry.1)

end Project
end EnvTags
