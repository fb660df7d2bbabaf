import EnvTags.Go.Grammar.Place

/-!
# Types

The rules for types, with the parameters, fields and interface elements inside
them.
-/

namespace EnvTags
namespace Go
namespace Rules

open EnvTags.Go.Parser

/-- The words that start a type wherever a type may stand. -/
def typeWords : List String :=
  ["struct", "interface", "map", "chan", "func"]

/-- One or more types with bars between them. -/
def union (rules : Rules) (place : Place) : Parser Node := do
  let first ← rules.type place
  let others ← many (symbolOn place "|" *> rules.type place)
  return .group (first :: others)

/-- The type arguments of a generic type. -/
def typeArguments (rules : Rules) : Parser Forest := do
  symbol "["
  let arguments ← commaList .nested (rules.union .nested)
  let _ ← optionally (symbol ",")
  symbol "]"
  return arguments

/-- What follows the first word of a named type: a name in a package and type
arguments, both if one likes. -/
def namedTypeRest (rules : Rules) (place : Place) : Parser Node := do
  let _ ← optionally (symbolOn place "." *> word)
  let arguments ← orEmpty (continues place *> rules.typeArguments)
  return .group arguments

/-- A parameter with its name. -/
def namedParameter (rules : Rules) : Parser Node := do
  let _ ← wordExcept typeWords
  let _ ← optionally (symbol "...")
  rules.type .nested

/-- A parameter without a name. -/
def bareParameter (rules : Rules) : Parser Node := do
  let _ ← optionally (symbol "...")
  rules.type .nested

/-- The parameters of a function. -/
def parameters (rules : Rules) : Parser Forest :=
  looselyEnclosed "(" ")" (symbol ",")
    (rules.namedParameter <|> rules.bareParameter)

/-- The result of a function. -/
def result (rules : Rules) (place : Place) : Parser Forest := do
  continues place
  rules.parameters <|> ((fun node => [node]) <$> rules.type place)

/-- The parameters and the result of a function. -/
def signature (rules : Rules) (place : Place) : Parser Forest := do
  let parameters ← rules.parameters
  let result ← orEmpty (rules.result place)
  return parameters ++ result

/-- One type parameter declaration. -/
def typeParameter (rules : Rules) : Parser Node := do
  let _ ← commaList .nested word
  rules.union .nested

/-- The type parameters of a declaration. -/
def typeParameters (rules : Rules) : Parser Forest := do
  symbol "["
  let parameters ← commaList .nested rules.typeParameter
  let _ ← optionally (symbol ",")
  symbol "]"
  return parameters

/-- Succeed before a tag or the end of a field. -/
def fieldEnd : Parser Unit :=
  ahead fun first =>
    first.afterNewline || first.isString || first.isSymbol ";" ||
      first.isSymbol "\x7d"

/-- The tag of a field, on the line of its type. -/
def fieldTag : Parser (Option Literal) :=
  optionally (continues .line *> literal)

/-- The named type of an embedded field, which may be called by any word. -/
def embeddedType (rules : Rules) : Parser Node := do
  let _ ← word
  rules.namedTypeRest .line

/-- An embedded field. -/
def embeddedField (rules : Rules) : Parser (FieldHeader × Node) := do
  let _ ← optionally (symbol "*")
  let (type, typeText) ← withText rules.embeddedType
  fieldEnd
  let tag ← fieldTag
  return (⟨[], typeText, tag⟩, type)

/-- A field with names. -/
def namedField (rules : Rules) : Parser (FieldHeader × Node) := do
  let names ← commaList .nested word
  let (type, typeText) ← withText (rules.type .line)
  let tag ← fieldTag
  return (⟨names, typeText, tag⟩, type)

/-- The fields of a struct type. -/
def structBody (rules : Rules) : Parser Node :=
  Node.structType <$> enclosed "\x7b" "\x7d" terminator
    (rules.embeddedField <|> rules.namedField)

/-- A method of an interface type. -/
def method (rules : Rules) : Parser Node := do
  let _ ← wordExcept typeWords
  continues .line
  Node.group <$> rules.signature .line

/-- The elements of an interface type. -/
def interfaceBody (rules : Rules) : Parser Node :=
  Node.group <$> enclosed "\x7b" "\x7d" terminator
    (rules.method <|> rules.union .line)

/-- A slice type, after its opening bracket. -/
def sliceRest (rules : Rules) (place : Place) : Parser Node := do
  symbol "]"
  let element ← rules.type place
  return .group [element]

/-- An array type, after its opening bracket. -/
def arrayRest (rules : Rules) (place : Place) : Parser Node := do
  let length ← rules.expression .nested
  symbol "]"
  let element ← rules.type place
  return .group (length ++ [element])

/-- A map type, after its first word. -/
def mapRest (rules : Rules) (place : Place) : Parser Node := do
  symbol "["
  let key ← rules.type .nested
  symbol "]"
  let value ← rules.type place
  return .group [key, value]

/-- A type that consists of marks and another type. -/
def wrapped (rules : Rules) (place : Place) : Parser Node := do
  let inner ← rules.type place
  return .group [inner]

/-- A type, after its first token. -/
def typeRest (rules : Rules) (place : Place) (first : Token) : Parser Node :=
  match first.kind, first.text with
  | .word, "struct" => rules.structBody
  | .word, "interface" => rules.interfaceBody
  | .word, "map" => rules.mapRest place
  | .word, "chan" => optionally (symbol "<-") *> rules.wrapped place
  | .word, "func" => Node.group <$> rules.signature place
  | .word, _ => rules.namedTypeRest place
  | .symbol, "(" => rules.wrapped .nested <* symbol ")"
  | .symbol, "*" => rules.wrapped place
  | .symbol, "~" => rules.wrapped place
  | .symbol, "<-" => keyword "chan" *> rules.wrapped place
  | .symbol, "[" => rules.sliceRest place <|> rules.arrayRest place
  | _, _ => failure

/-- A type. -/
def parseType (rules : Rules) (place : Place) : Parser Node := do
  let first ← token fun _ => true
  rules.typeRest place first

end Rules
end Go
end EnvTags
