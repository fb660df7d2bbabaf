import EnvTags.Go.Grammar.Expressions

/-!
# Statements

The rules for declarations and statements. The words `case` and `default` start
a clause only where one may start, so a statement knows whether it stands in the
body of a clause.
-/

namespace EnvTags
namespace Go
namespace Rules

open EnvTags.Go.Parser

/-- Expressions with commas between them. -/
def expressionList (rules : Rules) (place : Place) : Parser (List Forest) :=
  commaList place (rules.expression place)

/-- The parts of expressions with commas between them. -/
def expressions (rules : Rules) (place : Place) : Parser Forest :=
  List.flatten <$> rules.expressionList place

/-! ## Declarations -/

/-- A type specification with or without type parameters. -/
def typeSpec (rules : Rules) (name : String) : Parser Node :=
  (Node.typeSpec name [] <$> rules.type .line) <|> do
    let parameters ← rules.typeParameters
    let type ← rules.type .line
    return .typeSpec name parameters type

/-- A type specification or an alias. -/
def typeSpecOrAlias (rules : Rules) : Parser Node := do
  let name ← word
  (symbol "=" *> rules.wrapped .line) <|> rules.typeSpec name

/-- The values of a specification. -/
def specValues (rules : Rules) : Parser Forest :=
  symbol "=" *> rules.expressions .line

/-- What a constant specification says after its names. -/
def constRest (rules : Rules) : Parser Node := do
  continues .line
  let type ← orEmpty ((fun node => [node]) <$> rules.type .line)
  let values ← rules.specValues
  return .group (type ++ values)

/-- A constant specification. -/
def constSpec (rules : Rules) : Parser Node := do
  let _ ← commaList .line word
  rules.constRest <|> pure (.group [])

/-- What a variable specification says after its names, with a type. -/
def typedVariable (rules : Rules) : Parser Node := do
  let type ← rules.type .line
  let values ← orEmpty (continues .line *> rules.specValues)
  return .group (type :: values)

/-- A variable specification. -/
def varSpec (rules : Rules) : Parser Node := do
  let _ ← commaList .nested word
  (Node.group <$> rules.specValues) <|> rules.typedVariable

/-- One specification, or several in parentheses with a statement end after
each. -/
def specs (spec : Parser Node) : Parser Forest :=
  (symbol "(" *> terminated spec <* symbol ")") <|>
    ((fun node => [node]) <$> spec)

/-! ## Simple statements -/

/-- The operators between the two sides of an assignment. -/
def assignmentOperators : List String :=
  [":=", "=", "+=", "-=", "*=", "/=", "%=", "&=", "|=", "^=", "<<=", ">>=",
   "&^="]

/-- The right side of an assignment, with its operator. -/
def assigned (rules : Rules) (place : Place) : Parser Forest := do
  continues place
  discard (token (isOneOf assignmentOperators))
  rules.expressions place

/-- What may follow the single expression of a statement: a sent value, or an
operator that changes a variable by one. -/
def singleRest (rules : Rules) (place : Place) : Parser Forest := do
  continues place
  (symbol "<-" *> rules.expression place) <|>
    (discard (token (isOneOf ["++", "--"])) *> pure [])

/-- A simple statement in one place, whose assigned values stand in another. -/
def simpleStatement (rules : Rules) (place right : Place) : Parser Forest := do
  let left ← rules.expressionList place
  let rest ← rules.assigned right <|>
    if left.length = 1 then orEmpty (rules.singleRest place) else failure
  return left.flatten ++ rest

/-! ## Statements with a body -/

/-- An initial statement with its semicolon. -/
def initial (rules : Rules) : Parser Forest :=
  rules.simpleStatement .header .clause <* symbol ";"

/-- What follows the body of a conditional statement. -/
def elseRest (rules : Rules) : Parser Forest := do
  continues .line
  keyword "else"
  rules.block <|> (ahead (fun first => first.isWord "if") *> rules.statement false)

/-- A conditional statement, after its first word. -/
def ifRest (rules : Rules) : Parser Forest := do
  let start ← orEmpty rules.initial
  let condition ← rules.expression .header
  let body ← rules.block
  let others ← orEmpty rules.elseRest
  return start ++ condition ++ body ++ others

/-- The variables of a range clause with their operator. -/
def rangeTargets (rules : Rules) : Parser Forest := do
  let left ← rules.expressions .header
  discard (token (isOneOf ["=", ":="]))
  return left

/-- The header of a loop over a range. -/
def rangeClause (rules : Rules) : Parser Forest := do
  let left ← orEmpty (ahead (fun first => !first.isWord "range") *>
    rules.rangeTargets)
  keyword "range"
  let right ← rules.expression .header
  return left ++ right

/-- The header of a loop with an initial statement, a condition and a step. -/
def forClause (rules : Rules) : Parser Forest := do
  let start ← orEmpty (rules.simpleStatement .header .clause)
  symbol ";"
  let condition ← orEmpty (rules.expression .clause)
  symbol ";"
  let step ← orEmpty (rules.simpleStatement .header .header)
  return start ++ condition ++ step

/-- A loop, after its first word. -/
def forRest (rules : Rules) : Parser Forest := do
  let header ← orEmpty
    (rules.rangeClause <|> rules.forClause <|> rules.expression .header)
  let body ← rules.block
  return header ++ body

/-- Succeed unless a clause starts. -/
def notAtClause (inClause : Bool) : Parser Unit :=
  ahead fun first =>
    !(inClause && (first.isWord "case" || first.isWord "default"))

/-- A label. -/
def label : Parser Unit := do
  let _ ← word
  symbolOn .line ":"

/-- A label without a statement, which may stand last in a row of
statements. -/
def lastLabel (inClause : Bool) : Parser Unit :=
  notAtClause inClause *> label

/-- One or more statements with ends between them, and perhaps a label after
them. -/
def someStatements (rules : Rules) (inClause : Bool) : Parser Forest := do
  let statements ← separated terminator (rules.statement inClause)
  let _ ← optionally (terminator *> optionally (lastLabel inClause))
  return statements.flatten

/-- Statements with ends between them, perhaps none. -/
def statementList (rules : Rules) (inClause : Bool) : Parser Forest :=
  orEmpty (rules.someStatements inClause <|> (lastLabel inClause *> pure []))

/-- The body of a clause, after its header. -/
def clauseBody (rules : Rules) : Parser Forest := do
  symbol ":"
  rules.statementList true

/-- The clause for all other cases. -/
def defaultClause (rules : Rules) : Parser Forest := do
  keyword "default"
  rules.clauseBody

/-- A clause with a header of its own. -/
def caseClause (rules : Rules) (header : Parser Forest) : Parser Forest := do
  keyword "case"
  let parts ← header
  let body ← rules.clauseBody
  return parts ++ body

/-- The clauses of a statement, in braces. -/
def clauses (rules : Rules) (header : Parser Forest) : Parser Forest := do
  symbol "\x7b"
  let parts ← many (rules.caseClause header <|> rules.defaultClause)
  symbol "\x7d"
  return parts.flatten

/-- Whether some tokens end in the guard of a type switch. -/
def endsInTypeGuard (tokens : List Token) : Bool :=
  ((tokens.map Token.text).reverse.take 4).reverse == [".", "(", "type", ")"]

/-- The value of a switch that binds it to names. -/
def boundValue (rules : Rules) : Parser Forest := do
  let left ← rules.expressions .header
  symbol ":="
  let right ← rules.expression .header
  return left ++ right

/-- The clauses of a switch, after its header. They list types if the header
asks for a type, else expressions. -/
def switchClauses (rules : Rules) (asksForType : Bool) : Parser Forest :=
  rules.clauses
    (if asksForType then commaList .nested (rules.type .nested)
    else rules.expressions .nested)

/-- A switch over a value that is read by the given parser. A value that is
bound to names has to ask for a type. -/
def switchOver
    (rules : Rules)
    (value : Parser Forest)
    (needsGuard : Bool) : Parser Forest := fun tokens =>
  match value tokens with
  | .none => .none
  | some (header, rest) =>
      let asksForType :=
        endsInTypeGuard (tokens.take (tokens.length - rest.length))
      if needsGuard && !asksForType then .none
      else
        (rules.switchClauses asksForType rest).map fun (parts, left) =>
          (header ++ parts, left)

/-- A switch, after its first word. -/
def switchRest (rules : Rules) : Parser Forest := do
  let start ← orEmpty rules.initial
  let rest ← rules.switchOver rules.boundValue true <|>
    rules.switchOver (orEmpty (rules.expression .header)) false
  return start ++ rest

/-- What may follow the single expression of a communication: the value that is
sent. -/
def sentValue (rules : Rules) : Parser Forest :=
  symbol "<-" *> rules.expression .clause

/-- A communication: a value is sent, or received and perhaps assigned. -/
def communication (rules : Rules) : Parser Forest := do
  let left ← rules.expressionList .clause
  let rest ←
    (discard (token (isOneOf ["=", ":="])) *> rules.expression .clause) <|>
      if left.length = 1 then orEmpty rules.sentValue else failure
  return left.flatten ++ rest

/-- A selection, after its first word. -/
def selectRest (rules : Rules) : Parser Forest :=
  rules.clauses rules.communication

/-! ## All statements -/

/-- The values of a return, on its line. -/
def returned (rules : Rules) (inClause : Bool) : Parser Forest := do
  continues .line
  notAtClause inClause
  rules.expressions .line

/-- The label after a jump, on its line. -/
def jumpLabel (inClause : Bool) : Parser Forest := do
  continues .line
  notAtClause inClause
  let _ ← word
  return []

/-- A labelled statement, or one that starts with an expression. -/
def plainStatement (rules : Rules) (inClause : Bool) : Parser Forest :=
  fun tokens =>
    match label tokens with
    | some (_, rest) => rules.statement inClause rest
    | .none => rules.simpleStatement .line .line tokens

/-- A statement, given its first token. -/
def statementFrom
    (rules : Rules)
    (inClause : Bool)
    (first : Token) : Parser Forest :=
  match first.kind, first.text with
  | .word, "type" => token (fun _ => true) *> specs rules.typeSpecOrAlias
  | .word, "const" => token (fun _ => true) *> specs rules.constSpec
  | .word, "var" => token (fun _ => true) *> specs rules.varSpec
  | .word, "return" =>
      token (fun _ => true) *> orEmpty (rules.returned inClause)
  | .word, "go" => token (fun _ => true) *> rules.expression .line
  | .word, "defer" => token (fun _ => true) *> rules.expression .line
  | .word, "if" => token (fun _ => true) *> rules.ifRest
  | .word, "for" => token (fun _ => true) *> rules.forRest
  | .word, "switch" => token (fun _ => true) *> rules.switchRest
  | .word, "select" => token (fun _ => true) *> rules.selectRest
  | .word, "fallthrough" => token (fun _ => true) *> pure []
  | .word, "break" => token (fun _ => true) *> orEmpty (jumpLabel inClause)
  | .word, "continue" => token (fun _ => true) *> orEmpty (jumpLabel inClause)
  | .word, "goto" => token (fun _ => true) *> word *> pure []
  | .symbol, ";" => token (fun _ => true) *> pure []
  | .symbol, "\x7b" => rules.block
  | _, _ => rules.plainStatement inClause

/-- A statement. -/
def parseStatement (rules : Rules) (inClause : Bool) : Parser Forest
  | [] => .none
  | first :: rest =>
      (notAtClause inClause *> rules.statementFrom inClause first) (first :: rest)

/-- A block. -/
def parseBlock (rules : Rules) : Parser Forest := do
  symbol "\x7b"
  let statements ← rules.statementList false
  symbol "\x7d"
  return statements

end Rules
end Go
end EnvTags
