import EnvTags.Go.Tree
import EnvTags.Record
import EnvTags.Text.Capital

/-!
# What a source file declares

From a syntax tree come the name of the package, the imports, and the exported
structs with their exported, tagged fields. Structs are found at any depth, an
outer one before the ones inside it.
-/

namespace EnvTags
namespace Go

/-- An exported struct with its exported, tagged fields. -/
structure Struct where
  /-- The name of the struct. -/
  name : String
  /-- The fields, in the order of their declarations. -/
  fields : List Field
  deriving DecidableEq

/-- What a source file declares. -/
structure Declarations where
  /-- The name of the package, empty when no clause gives one. -/
  packageName : String
  /-- The imports, in order. -/
  imports : List Import
  /-- The exported structs, in order. -/
  structs : List Struct
  deriving DecidableEq

/-- Whether a name can be used outside of its package. -/
def isExported (name : String) : Bool :=
  Text.startsWithCapital name.toList

/-- The field that a declaration gives: it has a first name that is exported and
a tag that is not empty. -/
def FieldHeader.field? (header : FieldHeader) : Option Field :=
  match header.names.head?, header.tag.bind Literal.value? with
  | some name, some tag =>
      if isExported name && tag != "" then some ⟨name, header.typeText, tag⟩
      else none
  | _, _ => none

namespace Node

/-- The name that a package clause gives. -/
def packageName? : Node → Option String
  | package name => some name
  | _ => none

/-- The names of an import that give the package no name of its own. -/
def isUnnamed (name : String) : Bool :=
  name == "_" || name == "."

/-- The import that a node writes, if its path is a valid literal. -/
def imported? : Node → Option Import
  | importSpec name path =>
      path.value?.map fun value =>
        ⟨value, name.filter fun given => !isUnnamed given⟩
  | _ => none

/-- The struct that a type specification gives: its name is exported, its type
is a struct itself, and at least one field is kept. -/
def struct? : Node → Option Struct
  | typeSpec name _ (structType fields) =>
      let kept := fields.filterMap fun field => field.1.field?
      if isExported name && !kept.isEmpty then some ⟨name, kept⟩ else none
  | _ => none

end Node

/-- What the nodes of a file declare. The last package clause counts. -/
def Declarations.ofNodes (nodes : Forest) : Declarations where
  packageName := ((nodes.filterMap Node.packageName?).getLast?).getD ""
  imports := nodes.filterMap Node.imported?
  structs := nodes.filterMap Node.struct?

/-- What a syntax tree declares. -/
def Declarations.ofTree (tree : Forest) : Declarations :=
  .ofNodes (Node.preorderAll tree)

end Go
end EnvTags
