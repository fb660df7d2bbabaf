import EnvTags.Name
import EnvTags.Text.Split

/-!
# Import paths

An import path names a package by segments with slashes between them. The
packages of a module have the path of the module in front. In a module cache a
path is stored in an escaped form that has no capital letter.
-/

namespace EnvTags
namespace ImportPath

/-- The text without the slashes at its end. -/
def withoutTrailingSlashes (path : String) : String :=
  String.ofList (path.toList.reverse.dropWhile (· == '/')).reverse

/-- The path of the package in a directory of a module, given by the names that
lead from the root of the module to the directory. Names that are no texts go into
it as they are read. -/
def join (modulePath : String) (names : List Name) : String :=
  names.foldl (fun path name => path ++ "/" ++ name.read)
    (withoutTrailingSlashes modulePath)

/-- A character in its escaped form: a capital is an exclamation mark and the
small letter. -/
def escapeChar (c : Char) : List Char :=
  if c.isUpper then ['!', c.toLower] else [c]

/-- A path in its escaped form. -/
def escape (path : String) : String :=
  String.ofList (path.toList.flatMap escapeChar)

end ImportPath
end EnvTags
