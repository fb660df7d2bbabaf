import EnvTags.Go.Grammar.Types

/-!
# Expressions

The rules for expressions. The precedence of operators does not matter for what
is read, so an expression is a row of operands with operators between them.
-/

namespace EnvTags
namespace Go

/-- What an operand looks like so far, which decides whether the body of a
literal may follow. -/
inductive Shape
  /-- A single name. -/
  | name
  /-- A name in a package. -/
  | qualified
  /-- A name with type arguments. -/
  | generic
  /-- Anything else. -/
  | other
  deriving DecidableEq

/-- An operand read so far. -/
structure Operand where
  /-- What the operand looks like. -/
  shape : Shape
  /-- The parts of the operand. -/
  parts : Forest

namespace Rules

open EnvTags.Go.Parser

/-- The operators between two operands. -/
def binaryOperators : List String :=
  ["*", "/", "%", "<<", ">>", "&", "&^", "+", "-", "|", "^", "==", "!=", "<",
   "<=", ">", ">=", "&&", "||"]

/-- The operators before an operand. -/
def unaryOperators : List String :=
  ["+", "-", "!", "^", "*", "&", "<-"]

/-- Whether a token is one of some operators or marks. -/
def isOneOf (marks : List String) (token : Token) : Bool :=
  token.kind == .symbol && marks.contains token.text

/-- An operator before an operand. Two that are written together are taken one
by one. -/
def unaryOperator : Parser Unit :=
  splitSymbol "++" "+" "+" <|> splitSymbol "--" "-" "-" <|>
    splitSymbol "&&" "&" "&" <|> splitSymbol "&^" "&" "^" <|>
    discard (token (isOneOf unaryOperators))

/-- An operator between two operands. Where no operator of a statement may
follow, one that is written like two operators is taken as two. -/
def binaryOperator (place : Place) : Parser Unit := do
  continues place
  discard (token (isOneOf binaryOperators)) <|>
    if place.beforeOperator then failure
    else
      splitSymbol "++" "+" "+" <|> splitSymbol "--" "-" "-" <|>
        splitSymbol "<-" "<" "-"

/-- An element of a composite literal, or its key. -/
def literalElement (rules : Rules) : Parser Forest :=
  rules.expression .nested <|> rules.literalBody

/-- An element of a composite literal with its key, if it has one. -/
def keyedElement (rules : Rules) : Parser Forest := do
  let first ← rules.literalElement
  let second ← orEmpty (symbol ":" *> rules.literalElement)
  return first ++ second

/-- The body of a composite literal. -/
def parseLiteralBody (rules : Rules) : Parser Forest :=
  List.flatten <$> looselyEnclosed "\x7b" "\x7d" (symbol ",") rules.keyedElement

/-- The operand of a conversion, in its parentheses. -/
def conversionOperand (rules : Rules) : Parser Forest := do
  symbol "("
  let operand ← rules.expression .nested
  let _ ← optionally (symbol ",")
  symbol ")"
  return operand

/-- A type, after its first token, that is converted to. -/
def conversion (rules : Rules) (first : Token) : Parser Operand := do
  let type ← rules.typeRest .nested first
  let operand ← rules.conversionOperand
  return ⟨.other, type :: operand⟩

/-- A type, after its first token, with the body of a literal or with what is
converted to it. -/
def typedValue (rules : Rules) (first : Token) : Parser Operand := do
  let type ← rules.typeRest .nested first
  let value ← rules.parseLiteralBody <|> rules.conversionOperand
  return ⟨.other, type :: value⟩

/-- A literal of an array whose length follows from its elements, after the
opening bracket. -/
def openArray (rules : Rules) : Parser Operand := do
  symbol "..."
  symbol "]"
  let type ← rules.type .nested
  let value ← rules.parseLiteralBody
  return ⟨.other, type :: value⟩

/-- A function literal, after its first word. -/
def functionLiteral (rules : Rules) : Parser Operand := do
  let signature ← rules.signature .nested
  let body ← rules.block
  return ⟨.other, signature ++ body⟩

/-- A conversion to a function type without a result, after its first word. -/
def functionConversion (rules : Rules) : Parser Operand := do
  let parameters ← rules.parameters
  let operand ← rules.conversionOperand
  return ⟨.other, parameters ++ operand⟩

/-- The arguments of a call that makes a value of a type. -/
def makingArguments (rules : Rules) : Parser Forest := do
  let type ← rules.type .nested
  let others ← many (symbol "," *> rules.expression .nested)
  let _ ← optionally (symbol ",")
  return type :: others.flatten

/-- A call that makes a value of a type, after its first word. -/
def makingCall (rules : Rules) : Parser Operand := do
  symbol "("
  let arguments ← orEmpty rules.makingArguments
  symbol ")"
  return ⟨.other, arguments⟩

/-- The first word of a making call where no parenthesis follows. -/
def makingName : Parser Operand := do
  ahead fun first => !first.isSymbol "("
  return ⟨.name, []⟩

/-- An expression in parentheses, after the opening one. -/
def parenthesized (rules : Rules) : Parser Operand := do
  let inner ← rules.expression .nested
  symbol ")"
  return ⟨.other, inner⟩

/-- An operand, after its first token. -/
def operandRest (rules : Rules) (first : Token) : Parser Operand :=
  match first.kind, first.text with
  | .word, "func" =>
      rules.functionLiteral <|> rules.conversion first <|>
        rules.functionConversion
  | .word, "struct" => rules.typedValue first
  | .word, "map" => rules.typedValue first
  | .word, "chan" => rules.conversion first
  | .word, "interface" => rules.conversion first
  | .word, "new" => rules.makingCall <|> makingName
  | .word, "make" => rules.makingCall <|> makingName
  | .word, "nil" => pure ⟨.other, []⟩
  | .word, "true" => pure ⟨.other, []⟩
  | .word, "false" => pure ⟨.other, []⟩
  | .word, "iota" => pure ⟨.other, []⟩
  | .word, _ => pure ⟨.name, []⟩
  | .symbol, "(" => rules.parenthesized <|> rules.conversion first
  | .symbol, "[" => rules.openArray <|> rules.typedValue first
  | .symbol, "~" => rules.conversion first
  | .symbol, _ => failure
  | .finish, _ => failure
  | _, _ => pure ⟨.other, []⟩

/-- An argument of a call. -/
def argument (rules : Rules) : Parser Forest :=
  rules.expression .nested <* optionally (symbol "...")

/-- The arguments of a call. -/
def arguments (rules : Rules) : Parser Forest :=
  List.flatten <$> enclosed "(" ")" (symbol ",") rules.argument

/-- What follows the first bound of a slice: the other bounds. -/
def otherBounds (rules : Rules) : Parser Forest := do
  symbol ":"
  let second ← orEmpty (rules.expression .nested)
  let third ← orEmpty (symbol ":" *> rules.expression .nested)
  return second ++ third

/-- An index or the bounds of a slice, in brackets. -/
def index (rules : Rules) : Parser Forest := do
  symbol "["
  let bounds ←
    (do let first ← rules.expression .nested
        let others ← orEmpty rules.otherBounds
        return first ++ others) <|>
      rules.otherBounds
  symbol "]"
  return bounds

/-- The shape of an operand after a selector. -/
def Shape.select : Shape → Shape
  | .name => .qualified
  | _ => .other

/-- The shape of an operand after type arguments. -/
def Shape.instantiate : Shape → Shape
  | .name => .generic
  | .qualified => .generic
  | _ => .other

/-- A selector. -/
def selector (operand : Operand) : Parser Operand := do
  symbol "."
  let _ ← word
  return ⟨Shape.select operand.shape, operand.parts⟩

/-- A type assertion, or the guard of a type switch. -/
def assertion (rules : Rules) (operand : Operand) : Parser Operand := do
  symbol "."
  symbol "("
  let type ← (keyword "type" *> symbol ")" *> pure []) <|>
    ((fun node => [node]) <$> rules.type .nested <* symbol ")")
  return ⟨.other, operand.parts ++ type⟩

/-- Succeed if type arguments stand next, without taking them. -/
def typeArgumentsAhead (rules : Rules) : Parser Unit := fun tokens =>
  (rules.typeArguments tokens).map fun _ => ((), tokens)

/-- Type arguments with the body of a literal after them, which stands for an
index only if they cannot be type arguments. -/
def indexed (rules : Rules) (operand : Operand) : Parser Operand := do
  let isGeneric ← optionally rules.typeArgumentsAhead
  let parts ← rules.index <|> rules.typeArguments
  let shape :=
    if isGeneric.isSome then Shape.instantiate operand.shape else .other
  return ⟨shape, operand.parts ++ parts⟩

/-- A call. -/
def call (rules : Rules) (operand : Operand) : Parser Operand := do
  let arguments ← rules.arguments
  return ⟨.other, operand.parts ++ arguments⟩

/-- The marks after which a literal in a header is not taken for a body. -/
def afterHeaderLiteral : List String :=
  "\x7b" :: "." :: "[" :: "(" :: "," :: ":=" :: "=" :: binaryOperators

/-- The body of a literal after the name of its type. In a header a single name
never starts a literal, and another one does only if the header goes on after
the literal. -/
def compositeLiteral
    (rules : Rules)
    (place : Place)
    (operand : Operand) : Parser Operand := do
  if operand.shape = .other then failure
  if operand.shape = .name ∧ !place.nameOpensLiteral then failure
  let body ← rules.literalBody
  if !place.nameOpensLiteral then
    ahead fun next => !next.afterNewline && isOneOf afterHeaderLiteral next
  return ⟨.other, operand.parts ++ body⟩

/-- One step further in an operand. -/
def operandStep
    (rules : Rules)
    (place : Place)
    (operand : Operand) : Parser Operand := do
  continues place
  selector operand <|> rules.assertion operand <|> rules.indexed operand <|>
    rules.call operand <|> rules.compositeLiteral place operand

/-- An operand with all that belongs to it. -/
def operand (rules : Rules) (place : Place) : Parser Forest := do
  let first ← token fun _ => true
  let start ← rules.operandRest first
  Operand.parts <$> iterate (rules.operandStep place) start

/-- An operand with what is joined to it by operators. -/
def operation (rules : Rules) (place : Place) : Parser Forest := do
  let left ← rules.operand place
  let right ← orEmpty (binaryOperator place *> rules.expression place)
  return left ++ right

/-- An expression. -/
def parseExpression (rules : Rules) (place : Place) : Parser Forest :=
  (unaryOperator *> rules.expression place) <|> rules.operation place

end Rules
end Go
end EnvTags
