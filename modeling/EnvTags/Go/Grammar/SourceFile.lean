import EnvTags.Go.Grammar.Statements
import EnvTags.Go.Scan

/-!
# Source files

The rules for whole files, and the reading of a file. A file is a row of
statements and declarations, each with a statement end after it; a declaration
that only a file can hold may stand last without one.
-/

namespace EnvTags
namespace Go
namespace Rules

open EnvTags.Go.Parser

/-- The package clause of a file. -/
def packageClause : Parser Forest := do
  keyword "package"
  let name ← word
  return [.package name]

/-- The name written before the path of an import. -/
def importName : Parser String :=
  (symbol "." *> pure ".") <|> word

/-- One import. -/
def importSpec : Parser Node := do
  let name ← optionally importName
  let path ← literal
  return .importSpec name path

/-- One import, or several in parentheses. -/
def importDeclaration : Parser Forest := do
  keyword "import"
  enclosed "(" ")" terminator importSpec <|>
    ((fun node => [node]) <$> importSpec)

/-- The signature of a function declaration with its body, if it has one. -/
def functionRest (rules : Rules) : Parser Forest := do
  let signature ← rules.signature .line
  let body ← orEmpty (continues .line *> rules.block)
  return signature ++ body

/-- A function, after its first word. -/
def function (rules : Rules) : Parser Forest := do
  let _ ← word
  let parameters ← orEmpty rules.typeParameters
  let rest ← rules.functionRest
  return parameters ++ rest

/-- A method with its receiver, after its first word. -/
def receiverMethod (rules : Rules) : Parser Forest := do
  let receiver ← rules.parameters
  let _ ← word
  let rest ← rules.functionRest
  return receiver ++ rest

/-- A function or method declaration. -/
def functionDeclaration (rules : Rules) : Parser Forest := do
  keyword "func"
  rules.function <|> rules.receiverMethod

/-- A declaration that only a file can hold. -/
def topDeclaration (rules : Rules) : Parser Forest :=
  packageClause <|> importDeclaration <|> rules.functionDeclaration

/-- Succeed unless a package clause or an import starts. -/
def notAtTopDeclaration : Parser Unit :=
  ahead fun first => !(first.isWord "package" || first.isWord "import")

/-- A statement of a file. -/
def topStatement (rules : Rules) : Parser Forest :=
  notAtTopDeclaration *> rules.statement false

/-- The end of the text. -/
def finish : Parser Unit :=
  discard (token fun first => first.kind == .finish)

/-- A whole file. -/
def file (rules : Rules) : Parser Forest := do
  let parts ← terminated (rules.topDeclaration <|> rules.topStatement)
  let last ← orEmpty rules.topDeclaration
  finish
  return parts.flatten ++ last

/-- The rules that call the given ones. -/
def next (rules : Rules) : Rules where
  type := rules.parseType
  expression := rules.parseExpression
  literalBody := rules.parseLiteralBody
  block := rules.parseBlock
  statement := rules.parseStatement

/-- The rules that call each other at most a given number of times in depth. -/
def ofDepth : Nat → Rules
  | 0 => Rules.none
  | depth + 1 => (ofDepth depth).next

end Rules

/-- The syntax tree of a source file, absent when the file has a syntax error.
Each call between rules takes a token or the first half of one, which bounds the
depth. -/
def parse (source : String) : Option Forest :=
  match Token.ofSource source with
  | none => none
  | some tokens =>
      ((Rules.ofDepth (2 * tokens.length)).file tokens).map Prod.fst

end Go
end EnvTags
