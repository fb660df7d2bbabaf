import EnvTags.Go.Token
import EnvTags.Text.Quoted

/-!
# Syntax trees

A tree keeps what the analysis looks at: package clauses, imports, type
specifications and struct types. All other syntax is a group of its parts.
-/

namespace EnvTags
namespace Go

/-- A string literal, without the marks around it. -/
inductive Literal
  /-- A literal between back quotes. -/
  | raw (body : String)
  /-- A literal between double quotes. -/
  | quoted (body : String)
  deriving DecidableEq

namespace Literal

/-- The string that a literal stands for, absent when the body of a quoted
literal is not valid. -/
def value? : Literal → Option String
  | raw body => some body
  | quoted body => Text.Quoted.decode body.toList

/-- A text without its first and its last character. -/
def inner (text : String) : String :=
  String.ofList text.toList.tail.dropLast

/-- The literal that a token writes. -/
def ofToken? (token : Token) : Option Literal :=
  match token.kind with
  | .rawString => some (raw (inner token.text))
  | .quotedString => some (quoted (inner token.text))
  | _ => none

end Literal

/-- What a field declaration says, its type apart. -/
structure FieldHeader where
  /-- The names, none for an embedded field. -/
  names : List String
  /-- The type, as it is written. -/
  typeText : String
  /-- The tag. -/
  tag : Option Literal
  deriving DecidableEq

/-- A part of a syntax tree. -/
inductive Node
  /-- A package clause. -/
  | package (name : String)
  /-- An import, with the name written before the path. -/
  | importSpec (name : Option String) (path : Literal)
  /-- A type specification, but not an alias. -/
  | typeSpec (name : String) (parameters : List Node) (type : Node)
  /-- A struct type. -/
  | structType (fields : List (FieldHeader × Node))
  /-- Any other syntax. -/
  | group (parts : List Node)

/-- The parts of a tree that follow one another. -/
abbrev Forest := List Node

namespace Node

mutual

/-- All nodes of a tree, each before its parts and in the order of the text. -/
def preorder : Node → Forest
  | package name => [package name]
  | importSpec name path => [importSpec name path]
  | typeSpec name parameters type =>
      typeSpec name parameters type ::
        (preorderAll parameters ++ preorder type)
  | structType fields => structType fields :: preorderFields fields
  | group parts => group parts :: preorderAll parts

/-- All nodes of some trees. -/
def preorderAll : Forest → Forest
  | [] => []
  | node :: nodes => preorder node ++ preorderAll nodes

/-- All nodes of the types of some fields. -/
def preorderFields : List (FieldHeader × Node) → Forest
  | [] => []
  | (_, type) :: fields => preorder type ++ preorderFields fields

end

end Node
end Go
end EnvTags
