import EnvTags.Record

/-!
# Diagnostics

A diagnostic says which field was left out of the result, and why. It does not
stop the analysis.
-/

namespace EnvTags

/-- Why a field was left out. -/
inductive Omission
  /-- The nested record contains the record itself. -/
  | cycle
  /-- No record with the name of the type is in the package. -/
  | typeNotFound (typeName : String)
  /-- No import fits the package name of the type. -/
  | importNotMatched (name : String)
  /-- The imported package has no such record. -/
  | dependencyNotFound (importPath typeName : String)
  /-- A single variable of a nested record has no description. -/
  | untagged
  deriving DecidableEq

/-- The words for an omission. -/
def Omission.text : Omission → String
  | cycle => "cyclic reference"
  | typeNotFound typeName => "type " ++ typeName ++ " not found"
  | importNotMatched name => "no import matches `" ++ name ++ "`"
  | dependencyNotFound importPath typeName =>
      typeName ++ " not found in " ++ importPath
  | untagged => "no env tag"

/-- The finding that a field was left out. -/
structure Diagnostic where
  /-- The record that declares the field. -/
  record : Key
  /-- The name of the field. -/
  field : String
  /-- Why the field was left out. -/
  omission : Omission
  deriving DecidableEq

/-- A diagnostic as it is shown. -/
def Diagnostic.text (diagnostic : Diagnostic) : String :=
  diagnostic.record.text ++ "." ++ diagnostic.field ++ ": " ++
    diagnostic.omission.text ++ ", skipped"

end EnvTags
