import EnvTags.Text.Split

/-!
# Imports

An import binds a package, given by its path, to a name in one file: the alias
when there is one, else by convention the last segment of the path.
-/

namespace EnvTags

/-- One import of a source file. -/
structure Import where
  /-- The path of the imported package. -/
  path : String
  /-- The name given to the package in the file. -/
  name : Option String := none
  deriving DecidableEq

namespace Import

/-- What stands after the last slash of a path. -/
def lastSegmentOf (path : String) : String :=
  ((Text.parts '/' path).getLast?).getD path

/-- The conventional name of the imported package. -/
def lastSegment (imported : Import) : String :=
  lastSegmentOf imported.path

/-- Whether the import has the given alias. -/
def hasAlias (name : String) (imported : Import) : Bool :=
  imported.name == some name

/-- Whether the import has no alias and its conventional name is the given
one. -/
def hasLastSegment (name : String) (imported : Import) : Bool :=
  imported.name == none && imported.lastSegment == name

/-- Whether the given name occurs in the path of the import. -/
def mentions (name : String) (imported : Import) : Bool :=
  Text.occursIn name.toList imported.path.toList

/-- The import that a name refers to: the first with that alias, else the first
with that conventional name, else the first whose path contains the name. -/
def bound? (name : String) (imports : List Import) : Option Import :=
  ((imports.find? (hasAlias name)).or (imports.find? (hasLastSegment name))).or
    (imports.find? (mentions name))

end Import
end EnvTags
