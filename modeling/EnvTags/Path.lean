import EnvTags.Name
import EnvTags.Text.Split

/-!
# Paths

A path is the row of its pieces, the names between the slashes as they are
written. Empty pieces and single dots have no effect inside a path, so that
different paths may have the same components; a dot at the very start counts.
A path that starts with an empty piece and goes on is absolute.
-/

namespace EnvTags

/-- A path, as its first piece and the pieces after the slashes. -/
structure Path where
  /-- What stands before the first slash. -/
  head : Name
  /-- What stands after each slash. -/
  tail : List Name := []
  deriving DecidableEq

namespace Path

/-- One step of a path, once the pieces without effect are left out. -/
inductive Component
  /-- The root of the file system. -/
  | root
  /-- A dot at the start. -/
  | here
  /-- The step to the parent. -/
  | up
  /-- The step to an entry. -/
  | name (given : Name)
  deriving DecidableEq

/-- The empty path, which names nothing. -/
def empty : Path := ⟨"", []⟩

/-- The path with a given text. -/
def ofString (text : String) : Path :=
  match Text.parts '/' text with
  | [] => empty
  | head :: tail => ⟨head, tail.map Name.text⟩

/-- All pieces of a path. -/
def pieces (path : Path) : List Name :=
  path.head :: path.tail

/-- The text that a path is read as. -/
def text (path : Path) : String :=
  Text.joined '/' (path.pieces.map Name.read)

/-- A path as it is shown, between quotes. -/
def shown (path : Path) : String :=
  "\"" ++ String.ofList (['/'].intercalate (path.pieces.map Name.shown)) ++ "\""

/-- A piece that has no effect inside a path. -/
def isSilent (piece : Name) : Bool :=
  piece == "" || piece == "."

/-- The component for a piece that has an effect. -/
def Component.ofPiece (piece : Name) : Component :=
  if piece = ".." then .up else .name piece

/-- The components of pieces that do not stand at the start of a path. -/
def innerComponents (pieces : List Name) : List Component :=
  (pieces.filter fun piece => !isSilent piece).map Component.ofPiece

/-- The components of a path. Two paths name the same place for every purpose of
bookkeeping when they have the same components. -/
def components (path : Path) : List Component :=
  if path.head = "" then
    if path.tail.isEmpty then [] else .root :: innerComponents path.tail
  else if path.head = "." then .here :: innerComponents path.tail
  else innerComponents path.pieces

/-- The name of an entry that a component steps to. -/
def Component.name? : Component → Option Name
  | .name given => some given
  | _ => none

/-- The entry names among the components of a path. -/
def names (path : Path) : List Name :=
  path.components.filterMap Component.name?

/-- Whether a path starts at the root of the file system. -/
def isAbsolute (path : Path) : Bool :=
  path.head == "" && !path.tail.isEmpty

/-- Whether a path ends with a slash. -/
def endsWithSlash (path : Path) : Bool :=
  path.tail.getLast? == some (.text "")

/-- The path that continues `base` by `extra`. -/
def join (base extra : Path) : Path :=
  if extra.isAbsolute then extra
  else if base = empty then extra
  else if base.endsWithSlash then
    ⟨base.head, base.tail.dropLast ++ extra.pieces⟩
  else ⟨base.head, base.tail ++ extra.pieces⟩

/-- The path that continues `base` by one entry name. -/
def child (base : Path) (name : Name) : Path :=
  base.join ⟨name, []⟩

/-- The path without its last component. The empty path and the root have no
parent. -/
def parent? (path : Path) : Option Path :=
  match path.tail.reverse.dropWhile isSilent with
  | [] => if path.head = "" then none else some empty
  | _ :: others =>
      let rest := (others.dropWhile isSilent).reverse
      if path.head = "" ∧ rest = [] then some ⟨"", [""]⟩
      else some ⟨path.head, rest⟩

/-- The number of steps from a path to one without a parent, at most. -/
def height (path : Path) : Nat :=
  2 * path.tail.countP (fun piece => !isSilent piece) +
    if path.head = "" then 0 else 1

theorem height_parent?
    {path parent : Path}
    (isParent : path.parent? = some parent) :
    parent.height < path.height := by
  unfold parent? at isParent
  have counts : ∀ pieces : List Name,
      (pieces.dropWhile isSilent).countP (fun piece => !isSilent piece) =
        pieces.countP (fun piece => !isSilent piece) := by
    intro pieces
    induction pieces with
    | nil => rfl
    | cons piece pieces inductionHypothesis =>
        by_cases silent : isSilent piece = true
        · simp [List.dropWhile, silent, inductionHypothesis]
        · simp [List.dropWhile, silent]
  split at isParent
  · rename_i allSilent
    split at isParent
    · simp at isParent
    · rename_i nonempty
      simp only [Option.some.injEq] at isParent
      subst isParent
      simp [height, empty, nonempty]
  · rename_i last others reversed
    have lastLoud : isSilent last = false := by
      have loud := List.head_dropWhile_not (p := isSilent)
        (l := path.tail.reverse) (by simp [reversed])
      simpa [reversed] using loud
    have total := counts path.tail.reverse
    rw [reversed, List.countP_cons] at total
    simp only [lastLoud, Bool.not_false, if_true, List.countP_reverse] at total
    have fewer := counts others
    simp only at isParent
    split at isParent
    · rename_i atRoot
      simp only [Option.some.injEq] at isParent
      subst isParent
      simp only [height, atRoot.1, ← total]
      simp [isSilent]
    · simp only [Option.some.injEq] at isParent
      subst isParent
      simp only [height, List.countP_reverse, fewer]
      omega

/-- A path with its parent, the parent of that, and so on. -/
def ancestors (path : Path) : List Path :=
  match _ : path.parent? with
  | none => [path]
  | some parent => path :: parent.ancestors
termination_by path.height
decreasing_by exact height_parent? (by assumption)

/-- The name of the entry that a path ends in. -/
def fileName? (path : Path) : Option Name :=
  path.components.getLast?.bind Component.name?

/-- What stands after the last dot of a name, if anything stands before that
dot. -/
def extension? (name : String) : Option String :=
  match Text.cut '.' name.toList.reverse with
  | none => none
  | some (_, []) => none
  | some (reversed, _) => some (String.ofList reversed.reverse)

/-- Whether the components of a path go on after those of another one, and how. -/
def componentsAfter? : (start whole : List Component) → Option (List Component)
  | [], whole => some whole
  | _ :: _, [] => none
  | first :: start, component :: whole =>
      if first = component then componentsAfter? start whole else none

end Path
end EnvTags
