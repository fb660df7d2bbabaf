import EnvTags.Text.Blank
import EnvTags.Text.Letter
import EnvTags.Text.Numeral
import EnvTags.Text.Split

/-!
# References to types

The text of a field's type is sorted into one of four classes: a builtin type, a
type of the same package, a type of an imported package, or anything else. A
pointer to a named type counts as that type, since its variables are the same.
-/

namespace EnvTags

/-- The types whose fields are always single variables. -/
inductive Builtin
  | string
  | bool
  | int
  | int8
  | int16
  | int32
  | int64
  | uint
  | uint8
  | uint16
  | uint32
  | uint64
  | uintptr
  | float32
  | float64
  | complex64
  | complex128
  | byte
  | rune
  | time
  | duration
  deriving DecidableEq

namespace Builtin

/-- How a builtin type is written. -/
def name : Builtin → String
  | string => "string"
  | bool => "bool"
  | int => "int"
  | int8 => "int8"
  | int16 => "int16"
  | int32 => "int32"
  | int64 => "int64"
  | uint => "uint"
  | uint8 => "uint8"
  | uint16 => "uint16"
  | uint32 => "uint32"
  | uint64 => "uint64"
  | uintptr => "uintptr"
  | float32 => "float32"
  | float64 => "float64"
  | complex64 => "complex64"
  | complex128 => "complex128"
  | byte => "byte"
  | rune => "rune"
  | time => "time.Time"
  | duration => "time.Duration"

/-- All builtin types. -/
def all : List Builtin :=
  [string, bool, int, int8, int16, int32, int64, uint, uint8, uint16, uint32,
   uint64, uintptr, float32, float64, complex64, complex128, byte, rune, time,
   duration]

/-- The builtin type with a given name. -/
def ofName? (text : List Char) : Option Builtin :=
  all.find? fun builtin => builtin.name.toList == text

/-- The list of all builtin types is complete. -/
theorem mem_all (builtin : Builtin) : builtin ∈ all := by
  cases builtin <;> decide

end Builtin

/-- The class of a field's type. -/
inductive TypeRef
  /-- A builtin type. -/
  | builtin (type : Builtin)
  /-- A type of the same package. -/
  | unqualified (name : String)
  /-- A type of the package imported under a name. -/
  | qualified (package name : String)
  /-- Any other type. -/
  | composite (text : String)
  deriving DecidableEq

namespace TypeRef

/-- A name starts with an underscore or a letter and goes on with underscores,
letters and numerals. -/
def isIdentifier : List Char → Bool
  | [] => false
  | c :: rest =>
      (c == '_' || Text.isLetter c) &&
        rest.all fun d => d == '_' || Text.isLetter d || Text.isNumeral d

/-- What a pointer type points to, and any other type itself. -/
def pointee : List Char → List Char
  | '*' :: target => Text.trimStart target
  | text => text

/-- The class of a named type, where `whole` is what a type of another form
keeps. -/
def ofTarget (whole target : List Char) : TypeRef :=
  match Text.cut '.' target with
  | none =>
      if isIdentifier target then .unqualified (String.ofList target)
      else .composite (String.ofList whole)
  | some (package, name) =>
      if isIdentifier package && isIdentifier name then
        .qualified (String.ofList package) (String.ofList name)
      else .composite (String.ofList whole)

/-- The class of a type whose text has no blanks around it. -/
def ofTrimmed (text : List Char) : TypeRef :=
  match Builtin.ofName? text with
  | some type => .builtin type
  | none =>
      if (Builtin.ofName? (pointee text)).isSome then
        .composite (String.ofList text)
      else ofTarget text (pointee text)

/-- The class of a type given by its text. -/
def parse (text : String) : TypeRef :=
  ofTrimmed (Text.trim text.toList)

/-- Whether the type is a builtin type. -/
def isBuiltin : TypeRef → Bool
  | builtin _ => true
  | _ => false

end TypeRef
end EnvTags
