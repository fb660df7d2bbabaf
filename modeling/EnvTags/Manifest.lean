import EnvTags.Text.Blank
import EnvTags.Text.Split

/-!
# Module manifests

A manifest names its module in a directive: the word `module`, blanks, and a path
that is quoted, back-quoted or bare. The directive is looked for from the start
of each line, once the comments of all lines are cut off. The blanks before the
word and before the path may contain line ends.
-/

namespace EnvTags
namespace Manifest

/-- The name of the file that holds a manifest. -/
def fileName : String := "go.mod"

/-- A line without a carriage return at its end. -/
def withoutReturn (line : List Char) : List Char :=
  if line.getLast? = some '\r' then line.dropLast else line

/-- A line up to the first comment mark. -/
def withoutComment : List Char → List Char
  | [] => []
  | [c] => [c]
  | c :: d :: rest =>
      if c = '/' ∧ d = '/' then [] else c :: withoutComment (d :: rest)

/-- The lines of a manifest, without line ends and comments. -/
def lines (content : String) : List (List Char) :=
  (content.toList.splitOn '\n').map fun line =>
    withoutComment (withoutReturn line)

/-- A path between two equal marks, which is not empty. -/
def enclosed? (mark : Char) : List Char → Option (List Char)
  | [] => none
  | c :: rest =>
      if c = mark then
        match Text.cut mark rest with
        | none => none
        | some ([], _) => none
        | some (path, _) => some path
      else none

/-- A path up to the next blank, which does not start with a slash. -/
def bare? : List Char → Option (List Char)
  | [] => none
  | c :: rest =>
      if Text.isBlank c ∨ c = '/' then none
      else some (c :: rest.takeWhile fun d => !Text.isBlank d)

/-- The path at the start of a text, in one of its three forms. -/
def path? (text : List Char) : Option (List Char) :=
  ((enclosed? '"' text).or (enclosed? '\x60' text)).or (bare? text)

/-- The path after the word of the directive. -/
def pathAfterWord? : List Char → Option (List Char)
  | [] => none
  | c :: rest =>
      if Text.isBlank c then path? (Text.trimStart rest) else none

/-- The path of a directive at the start of a text. -/
def directive? (text : List Char) : Option (List Char) :=
  match Text.after? "module".toList (Text.trimStart text) with
  | none => none
  | some rest => pathAfterWord? rest

/-- The path of the first directive that starts at one of the lines. -/
def firstDirective? : List (List Char) → Option (List Char)
  | [] => none
  | line :: lines =>
      (directive? (['\n'].intercalate (line :: lines))).or
        (firstDirective? lines)

/-- The module path that a manifest declares. -/
def modulePath? (content : String) : Option String :=
  (firstDirective? (lines content)).map String.ofList

end Manifest
end EnvTags
