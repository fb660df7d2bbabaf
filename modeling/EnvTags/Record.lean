import EnvTags.Import
import EnvTags.Path
import EnvTags.TypeRef

/-!
# Records

A record is an exported struct with its exported, tagged fields. It is known by
its package and its name, and remembers the file that declares it with the
imports of that file.
-/

namespace EnvTags

/-- An exported, tagged field of a record. -/
structure Field where
  /-- The name of the field. -/
  name : String
  /-- The type, as it is written. -/
  typeText : String
  /-- The tag, without the marks around it. -/
  tag : String
  deriving DecidableEq

/-- The class of a field's type. -/
def Field.typeRef (field : Field) : TypeRef :=
  TypeRef.parse field.typeText

/-- What a record is known by. -/
structure Key where
  /-- The identity of the package. -/
  package : String
  /-- The name of the record. -/
  name : String
  deriving DecidableEq

/-- A key as it is shown. -/
def Key.text (key : Key) : String :=
  key.package ++ "." ++ key.name

/-- An exported struct. -/
structure Record where
  /-- The file that declares the record. -/
  file : Path
  /-- The identity of the package. -/
  package : String
  /-- The name of the record. -/
  name : String
  /-- The fields, in the order of their declarations. -/
  fields : List Field
  /-- The imports of the file. -/
  imports : List Import
  deriving DecidableEq

namespace Record

/-- What the record is known by. -/
def key (record : Record) : Key :=
  ⟨record.package, record.name⟩

/-- The directory of the file that declares the record. -/
def directory (record : Record) : Path :=
  record.file.parent?.getD ⟨".", []⟩

/-- The records that are the first with their mark, in order. -/
def firstBy [DecidableEq κ] (mark : Record → κ) : List Record → List Record
  | [] => []
  | record :: records =>
      record :: (firstBy mark records).filter fun other =>
        mark other ≠ mark record

end Record

/-- What one source file declares. -/
structure SourceFile where
  /-- The file. -/
  path : Path
  /-- The identity of the package of the file. -/
  package : String
  /-- The imports of the file. -/
  imports : List Import
  /-- The records, outer before inner. -/
  records : List Record
  deriving DecidableEq

end EnvTags
