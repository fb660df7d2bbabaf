import EnvTags.Name

/-!
# Entries of a file system

An entry is a file or a directory; links and special files are left out. A
directory lists its entries in the order in which the system enumerates them, which
a result should not depend on: whoever walks through a tree sorts it by name first.
-/

namespace EnvTags

/-- What a file holds. -/
inductive Content
  /-- A text. -/
  | text (characters : String)
  /-- Bytes that are not valid UTF-8. -/
  | bytes (raw : List UInt8)
  deriving DecidableEq

/-- The content that some bytes are. -/
def Content.ofBytes (raw : List UInt8) : Content :=
  match String.fromUTF8? ⟨raw.toArray⟩ with
  | some characters => .text characters
  | none => .bytes raw

/-- A file or a directory. -/
inductive Entry
  /-- A file with its content. -/
  | file (content : Content)
  /-- A directory with its named entries. -/
  | directory (entries : List (Name × Entry))

namespace Entry

/-- Whether an entry is a directory. -/
def isDirectory : Entry → Bool
  | file _ => false
  | directory _ => true

/-- The named entries of a directory. -/
def children : Entry → List (Name × Entry)
  | file _ => []
  | directory entries => entries

/-- Insert a named entry before the first one whose name is not smaller. -/
def insertByName (entry : Name × Entry) :
    List (Name × Entry) → List (Name × Entry)
  | [] => [entry]
  | other :: entries =>
      if other.1 < entry.1 then other :: insertByName entry entries
      else entry :: other :: entries

/-- Named entries in the order of their names. -/
def sortByName : List (Name × Entry) → List (Name × Entry)
  | [] => []
  | entry :: entries => insertByName entry (sortByName entries)

mutual

/-- A tree with the entries of every directory in the order of their names. -/
def sorted : Entry → Entry
  | file content => file content
  | directory entries => directory (sortByName (sortedEach entries))

/-- Named entries, each of them sorted inside. -/
def sortedEach : List (Name × Entry) → List (Name × Entry)
  | [] => []
  | (name, entry) :: entries => (name, sorted entry) :: sortedEach entries

end

/-- Change the entry with a name, or add it. -/
def setChild (name : Name) (entry : Entry) :
    List (Name × Entry) → List (Name × Entry)
  | [] => [(name, entry)]
  | (other, old) :: entries =>
      if other = name then (name, entry) :: entries
      else (other, old) :: setChild name entry entries

/-- Put an entry at the end of a row of names. Directories are made as needed,
also in place of files. -/
def put (entry : Entry) : List Name → Entry → Entry
  | [], _ => entry
  | name :: names, tree =>
      let inner := (tree.children.lookup name).getD (directory [])
      directory (setChild name (put entry names inner) tree.children)

/-- Make the directory at the end of a row of names, with its parents, and keep
what is there already. -/
def makeDirectory : List Name → Entry → Entry
  | [], directory entries => directory entries
  | [], file _ => directory []
  | name :: names, tree =>
      let inner := (tree.children.lookup name).getD (directory [])
      directory (setChild name (makeDirectory names inner) tree.children)

/-- Remove the entry at the end of a row of names with all that is in it. -/
def remove : List Name → Entry → Entry
  | _, file content => file content
  | [], directory entries => directory entries
  | [name], directory entries =>
      directory (entries.filter fun entry => entry.1 != name)
  | name :: names, directory entries =>
      match entries.lookup name with
      | none => directory entries
      | some inner => directory (setChild name (remove names inner) entries)

end Entry
end EnvTags
