import EnvTags.FileSystem.Entry
import EnvTags.Path

/-!
# Access to a file system

A path is followed piece by piece from the working directory. Every piece needs
a directory to start from, also one that has no effect, and the step to the
parent of the root stays there. The empty path names nothing.
-/

namespace EnvTags

/-- A tree of files with a working directory, given by the names that lead to
it. -/
structure FileSystem where
  /-- The root directory. -/
  root : Entry
  /-- The names that lead to the working directory. -/
  workingDirectory : List Name := []

namespace FileSystem

/-- Why an access fails. -/
inductive Failure
  /-- Nothing has the path. -/
  | notFound
  /-- A file stands where a directory is needed. -/
  | notDirectory
  /-- A directory stands where a file is needed. -/
  | isDirectory
  /-- The content is not a text. -/
  | notText
  deriving DecidableEq

/-- The words of the system for a failure. -/
def Failure.text : Failure → String
  | notFound => "No such file or directory (os error 2)"
  | notDirectory => "Not a directory (os error 20)"
  | isDirectory => "Is a directory (os error 21)"
  | notText => "stream did not contain valid UTF-8"

/-- The entries on the way from the root, the last one first. The root itself is
left out. -/
abbrev Trail := List (Name × Entry)

/-- The entry at the end of a trail. -/
def entryAt (root : Entry) : Trail → Entry
  | [] => root
  | (_, entry) :: _ => entry

/-- Follow one piece of a path. -/
def enter (root : Entry) (trail : Trail) (piece : Name) : Except Failure Trail :=
  match entryAt root trail with
  | .file _ => .error .notDirectory
  | .directory entries =>
      if Path.isSilent piece then .ok trail
      else if piece = ".." then .ok trail.tail
      else
        match entries.lookup piece with
        | none => .error .notFound
        | some entry => .ok ((piece, entry) :: trail)

/-- Follow the pieces of a path. -/
def follow (root : Entry) : Trail → List Name → Except Failure Trail
  | trail, [] => .ok trail
  | trail, piece :: pieces =>
      match enter root trail piece with
      | .error failure => .error failure
      | .ok next => follow root next pieces

/-- Follow the pieces of a relative path. -/
def followRelative (system : FileSystem) (pieces : List Name) :
    Except Failure Trail :=
  match follow system.root [] system.workingDirectory with
  | .error failure => .error failure
  | .ok trail => follow system.root trail pieces

/-- The way to the entry that has a path. -/
def locate (system : FileSystem) (path : Path) : Except Failure Trail :=
  if path = Path.empty then .error .notFound
  else if path.isAbsolute then follow system.root [] path.tail
  else system.followRelative path.pieces

/-- The entry that has a path. -/
def entry (system : FileSystem) (path : Path) : Except Failure Entry :=
  match system.locate path with
  | .error failure => .error failure
  | .ok trail => .ok (entryAt system.root trail)

/-- Whether something has a path. -/
def contains (system : FileSystem) (path : Path) : Bool :=
  match system.entry path with
  | .error _ => false
  | .ok _ => true

/-- Whether a directory has a path. -/
def isDirectory (system : FileSystem) (path : Path) : Bool :=
  match system.entry path with
  | .error _ => false
  | .ok found => found.isDirectory

/-- The text of a file. -/
def readText (system : FileSystem) (path : Path) : Except Failure String :=
  match system.entry path with
  | .error failure => .error failure
  | .ok (.directory _) => .error .isDirectory
  | .ok (.file (.bytes _)) => .error .notText
  | .ok (.file (.text characters)) => .ok characters

/-- The entries of a directory, in the order of the system. -/
def readDirectory (system : FileSystem) (path : Path) :
    Except Failure (List (Name × Entry)) :=
  match system.entry path with
  | .error failure => .error failure
  | .ok (.file _) => .error .notDirectory
  | .ok (.directory entries) => .ok entries

/-- The directory part and the last piece of a path. -/
def splitLast (path : Path) : List Name × Name :=
  (path.pieces.dropLast, (path.tail.getLast?).getD path.head)

/-- The way to the directory in which a path names an entry. -/
def locateParent (system : FileSystem) (path : Path) : Except Failure Trail :=
  if path.isAbsolute then follow system.root [] path.tail.dropLast
  else system.followRelative (splitLast path).1

/-- Write a file, in a directory that exists. -/
def writeText (system : FileSystem) (path : Path) (characters : String) :
    Except Failure FileSystem :=
  if path = Path.empty then .error .notFound
  else
    match system.locateParent path with
    | .error failure => .error failure
    | .ok trail =>
        match entryAt system.root trail with
        | .file _ => .error .notDirectory
        | .directory entries =>
            let name := (splitLast path).2
            if Path.isSilent name || name == ".." then .error .isDirectory
            else
              match entries.lookup name with
              | some (.directory _) => .error .isDirectory
              | _ =>
                  let names := (trail.map Prod.fst).reverse ++ [name]
                  .ok { system with
                    root := Entry.put (.file (.text characters)) names system.root }

end FileSystem
end EnvTags
