import EnvTags.Expansion.Expand

/-!
# How deep records can be nested

A record that is being expanded is not entered again, so records cannot be nested
deeper than there are keys. A key has the identity or the import path of a package
and the name of a record; both come from the records that are known and from the
source files that can be read.
-/

namespace EnvTags

mutual

/-- The texts of all source files in a tree. -/
def Entry.sourceTexts (name : Name) : Entry → List String
  | .file (.text characters) =>
      if Project.isSourceName name then [characters] else []
  | .file (.bytes _) => []
  | .directory entries => Entry.sourceTextsAmong entries

/-- The texts of all source files in the trees of a directory. -/
def Entry.sourceTextsAmong : List (Name × Entry) → List String
  | [] => []
  | (name, entry) :: entries =>
      Entry.sourceTexts name entry ++ Entry.sourceTextsAmong entries

end

namespace Expansion

/-- What all source files of a file system declare. -/
def allDeclarations (system : FileSystem) : List Go.Declarations :=
  ((Entry.sourceTexts "" system.root).filterMap Go.parse).map
    Go.Declarations.ofTree

/-- The records that are known before an expansion. -/
def knownRecords (setting : Setting) (state : State) (roots : List Record) :
    List Record :=
  roots ++ setting.graph.records ++ state.cache.flatMap Prod.snd

/-- The import paths and package identities that keys can have. -/
def keyPackages (setting : Setting) (state : State) (roots : List Record) :
    List String :=
  let records := knownRecords setting state roots
  let imports := records.flatMap Record.imports ++
    (allDeclarations setting.system).flatMap Go.Declarations.imports
  (records.map Record.package ++ imports.map Import.path).eraseDups

/-- The record names that keys can have. -/
def keyNames (setting : Setting) (state : State) (roots : List Record) :
    List String :=
  let structs :=
    (allDeclarations setting.system).flatMap Go.Declarations.structs
  ((knownRecords setting state roots).map Record.name ++
    structs.map Go.Struct.name).eraseDups

/-- The number of keys that can occur in an expansion. -/
def keyCount (setting : Setting) (state : State) (roots : List Record) : Nat :=
  (keyPackages setting state roots).length *
    (keyNames setting state roots).length

/-- The variables of a record. -/
def expand (setting : Setting) : Expander := fun state namePrefix record =>
  expandWithin setting (keyCount setting state [record]) state namePrefix record

end Expansion
end EnvTags
