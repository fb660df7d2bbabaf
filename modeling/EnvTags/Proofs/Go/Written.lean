import EnvTags.Proofs.Go.Extraction
import EnvTags.Proofs.Go.Lexeme

/-!
# Written configuration files

A configuration file is written in the canonical layout: the package clause, a block
of imports and one declaration for each struct, with blank lines between them. Every
field has a line of its own, as has every import, and blanks align the columns. What
such a file says is a package name, its imports, and its exported structs with their
exported, tagged fields. Other structs and other fields may stand anywhere among them.
-/

namespace EnvTags
namespace Go
namespace Written

/-! ## Names and types -/

/-- The words that cannot be names. -/
def keywords : List String :=
  ["break", "case", "chan", "const", "continue", "default", "defer", "else",
   "fallthrough", "for", "func", "go", "goto", "if", "import", "interface", "map",
   "package", "range", "return", "select", "struct", "switch", "type", "var"]

/-- A name: a word that is no keyword. -/
structure Identifier where
  /-- The word. -/
  text : String
  isWord : Lexeme.isWord text.toList = true
  notKeyword : text ∉ keywords

/-- The name of a type, in a package of its own or not. -/
inductive TypeName
  /-- A name. -/
  | plain (name : Identifier)
  /-- A name in a package. -/
  | qualified (package name : Identifier)

def TypeName.text : TypeName → String
  | plain name => name.text
  | qualified package name => package.text ++ "." ++ name.text

/-- The type of a field. -/
inductive FieldType
  /-- A named type. -/
  | named (name : TypeName)
  /-- A pointer to a named type. -/
  | pointer (name : TypeName)
  /-- A slice. -/
  | slice (element : FieldType)
  /-- A map. -/
  | map (key value : FieldType)

def FieldType.text : FieldType → String
  | named name => name.text
  | pointer name => "*" ++ name.text
  | slice element => "[]" ++ element.text
  | map key value => "map[" ++ key.text ++ "]" ++ value.text

/-! ## String literals -/

/-- A string literal with the text that it stands for. -/
inductive StringLiteral
  /-- A text between back quotes. A carriage return there would not be part of the
  text. -/
  | raw
      (value : String)
      (noBackQuote : '\x60' ∉ value.toList)
      (noReturn : '\r' ∉ value.toList)
  /-- A text that is spelled between double quotes. -/
  | quoted
      (value body : String)
      (spells : Text.Quoted.Spells body.toList value.toList)

namespace StringLiteral

/-- What the literal stands for. -/
def value : StringLiteral → String
  | raw value _ _ => value
  | quoted value _ _ => value

def text : StringLiteral → String
  | raw value _ _ => "\x60" ++ value ++ "\x60"
  | quoted _ body _ => "\"" ++ body ++ "\""

end StringLiteral

/-! ## Lines -/

/-- Blanks between two columns. At least one is needed. -/
def gap (more : Nat) : String :=
  String.ofList (List.replicate (more + 1) ' ')

/-- A line with an import. -/
structure ImportRow where
  /-- The name that is given to the package. -/
  name : Option Identifier
  /-- The path of the package. -/
  path : StringLiteral
  notBlank : ∀ given ∈ name, given.text ≠ "_"

namespace ImportRow

def text (row : ImportRow) : String :=
  match row.name with
  | none => row.path.text
  | some name => name.text ++ " " ++ row.path.text

/-- What the line imports. -/
def imported (row : ImportRow) : Import :=
  ⟨row.path.value, row.name.map Identifier.text⟩

end ImportRow

/-- A line with a field that has a name. -/
structure FieldRow where
  /-- The name of the field. -/
  name : Identifier
  /-- Further blanks behind the name. -/
  typeGap : Nat
  /-- The type of the field. -/
  type : FieldType
  /-- The tag, with further blanks before it. -/
  tag : Option (Nat × StringLiteral)

namespace FieldRow

/-- The end of a line, behind the type. -/
def tagText (row : FieldRow) : String :=
  match row.tag with
  | none => ""
  | some (more, literal) => gap more ++ literal.text

def text (row : FieldRow) : String :=
  row.name.text ++ gap row.typeGap ++ row.type.text ++ row.tagText

/-- The line declares an exported field with a tag that is not empty. -/
structure Declares (row : FieldRow) (field : Field) : Prop where
  name : field.name = row.name.text
  exported : isExported row.name.text = true
  typeText : field.typeText = row.type.text
  tag : ∃ more literal, row.tag = some (more, literal) ∧ field.tag = literal.value
  tagged : field.tag ≠ ""

/-- The line declares an unexported field or one without a tag. -/
def IsOther (row : FieldRow) : Prop :=
  isExported row.name.text = false ∨ row.tag = none

end FieldRow

/-- A line between the braces of a struct. -/
inductive Row
  /-- A field with a name. -/
  | field (row : FieldRow)
  /-- An embedded field without a tag. -/
  | embedded (isPointer : Bool) (name : TypeName)

namespace Row

def text : Row → String
  | field row => row.text
  | embedded isPointer name => (if isPointer then "*" else "") ++ name.text

/-- The line declares an exported field with a tag that is not empty. -/
inductive Declares : Row → Field → Prop
  /-- Such a field has a name. -/
  | field {row : FieldRow} {field : Field} (declares : row.Declares field) :
      Declares (.field row) field

/-- The line declares an unexported field, an embedded one or one without a tag. -/
def IsOther : Row → Prop
  | field row => row.IsOther
  | embedded _ _ => True

end Row

/-- The declaration of a struct. -/
structure StructBlock where
  /-- The name of the struct. -/
  name : Identifier
  /-- The lines with its fields. -/
  rows : List Row

namespace StructBlock

def text (block : StructBlock) : String :=
  "type " ++ block.name.text ++ " struct \x7b" ++
    String.join (block.rows.map fun row => "\n\t" ++ row.text) ++ "\n\x7d"

/-- An exported struct is declared, with other fields among its own. -/
structure Declares (block : StructBlock) (struct : Struct) : Prop where
  name : struct.name = block.name.text
  exported : isExported block.name.text = true
  fields : Interspersed Row.IsOther Row.Declares block.rows struct.fields
  nonempty : struct.fields ≠ []

/-- The struct is not exported. -/
def IsOther (block : StructBlock) : Prop :=
  isExported block.name.text = false

end StructBlock

/-! ## Files -/

/-- A part of a file. -/
inductive Block
  /-- The package clause. -/
  | package (name : Identifier)
  /-- The imports. -/
  | imports (rows : List ImportRow)
  /-- The declaration of a struct. -/
  | struct (block : StructBlock)

def Block.text : Block → String
  | package name => "package " ++ name.text
  | imports rows =>
      "import (" ++ String.join (rows.map fun row => "\n\t" ++ row.text) ++ "\n)"
  | struct block => block.text

/-- A configuration file. -/
structure File where
  /-- The name of the package. -/
  package : Identifier
  /-- The imports, which have no block if there are none. -/
  imports : List ImportRow
  /-- The structs. -/
  structs : List StructBlock

namespace File

/-- The parts behind the package clause. -/
def blocks (file : File) : List Block :=
  (if file.imports.isEmpty then [] else [.imports file.imports]) ++ file.structs.map .struct

/-- The text of a file, with blank lines between its parts. -/
def text (file : File) : String :=
  (Block.package file.package).text ++
    String.join (file.blocks.map fun block => "\n\n" ++ block.text) ++ "\n"

/-- What a file declares, with other structs among the exported ones. -/
structure Declares (file : File) (declared : Declarations) : Prop where
  packageName : declared.packageName = file.package.text
  imports : declared.imports = file.imports.map ImportRow.imported
  structs : Interspersed StructBlock.IsOther StructBlock.Declares file.structs
    declared.structs

end File
end Written
end Go
end EnvTags
