import EnvTags.Go.Token
import EnvTags.Go.Tree

/-!
# Parsers over tokens

A parser takes tokens from the front of a row and answers a value, or fails. A
choice tries its second part from the same place when the first one fails.
Repetition stops where a round fails or takes no token.
-/

namespace EnvTags
namespace Go

/-- A parser takes tokens from the front of a row, or fails. -/
abbrev Parser := StateT (List Token) Option

namespace Parser

/-- Take one token of a class. -/
def token (accepts : Token → Bool) : Parser Token
  | [] => none
  | first :: rest => if accepts first then some (first, rest) else none

/-- Succeed without taking a token, if the first token is of a class. -/
def ahead (accepts : Token → Bool) : Parser Unit
  | [] => none
  | first :: rest =>
      if accepts first then some ((), first :: rest) else none

/-- Take the given operator or punctuation mark. -/
def symbol (text : String) : Parser Unit :=
  discard (token fun first => first.isSymbol text)

/-- Take the given word. -/
def keyword (text : String) : Parser Unit :=
  discard (token fun first => first.isWord text)

/-- Take any word and answer it. -/
def word : Parser String :=
  Token.text <$> token fun first => first.kind == .word

/-- Take any word but the given ones and answer it. -/
def wordExcept (excluded : List String) : Parser String :=
  Token.text <$> token fun first =>
    first.kind == .word && !excluded.contains first.text

/-- Take a string literal. -/
def literal : Parser Literal
  | [] => none
  | first :: rest => (Literal.ofToken? first).map fun value => (value, rest)

/-- Try a parser, and take nothing if it fails. -/
def optionally (parser : Parser α) : Parser (Option α) :=
  (some <$> parser) <|> pure none

/-- The values of a forest parser that may be left out. -/
def orEmpty (parser : Parser (List α)) : Parser (List α) :=
  parser <|> pure []

/-- Repeat a step on a value as long as it succeeds and takes tokens. -/
def iterateFrom
    (step : σ → Parser σ)
    (value : σ)
    (tokens : List Token) : σ × List Token :=
  match step value tokens with
  | none => (value, tokens)
  | some (next, rest) =>
      if rest.length < tokens.length then iterateFrom step next rest
      else (next, rest)
termination_by tokens.length

/-- Repeat a step on a value as long as it succeeds and takes tokens. -/
def iterate (step : σ → Parser σ) (value : σ) : Parser σ := fun tokens =>
  some (iterateFrom step value tokens)

/-- The values of a parser that is run as often as it succeeds. -/
def manyFrom (parser : Parser α) (tokens : List Token) : List α × List Token :=
  match parser tokens with
  | none => ([], tokens)
  | some (value, rest) =>
      if rest.length < tokens.length then
        let others := manyFrom parser rest
        (value :: others.1, others.2)
      else ([value], rest)
termination_by tokens.length

/-- The values of a parser that is run as often as it succeeds. -/
def many (parser : Parser α) : Parser (List α) := fun tokens =>
  some (manyFrom parser tokens)

/-- One or more values with a separator between them. -/
def separated (separator : Parser Unit) (parser : Parser α) : Parser (List α) := do
  let first ← parser
  let others ← many (separator *> parser)
  return first :: others

/-- Values between two marks with a separator between them. After the last one
there may be another separator. -/
def enclosed
    (opening closing : String)
    (separator : Parser Unit)
    (parser : Parser α) : Parser (List α) := do
  symbol opening
  let values ← orEmpty (separated separator parser <* optionally separator)
  symbol closing
  return values

/-- Values between two marks with a separator between them. Before the closing
mark there may be another separator, also when there is no value. -/
def looselyEnclosed
    (opening closing : String)
    (separator : Parser Unit)
    (parser : Parser α) : Parser (List α) := do
  symbol opening
  let values ← orEmpty (separated separator parser)
  let _ ← optionally separator
  symbol closing
  return values

/-- The end of a statement: a line end before the next token, or a semicolon. A
line end counts once. -/
def terminator : Parser Unit
  | [] => none
  | first :: rest =>
      if first.afterNewline then
        some ((), { first with afterNewline := false } :: rest)
      else if first.isSymbol ";" then some ((), rest)
      else none

/-- Values that each have a statement end after them. -/
def terminated (parser : Parser α) : Parser (List α) :=
  many (parser <* terminator)

/-- Run a parser and answer with its value the text it took. -/
def withText (parser : Parser α) : Parser (α × String) := fun tokens =>
  (parser tokens).map fun (value, rest) =>
    ((value, Token.textBefore tokens rest), rest)

/-- Take an operator, also as the first part of one that is written like it and
the operator `second` together. -/
def splitSymbol (whole first second : String) : Parser Unit
  | [] => none
  | token :: rest =>
      if token.isSymbol whole then
        some ((), ⟨"", false, .symbol, second⟩ :: rest)
      else if token.isSymbol first then some ((), rest)
      else none

end Parser
end Go
end EnvTags
