/-!
# Tokens

Source code is read as a row of tokens. Each token keeps the blanks and comments
before it, so that the text between any two tokens can be given back as it is
written. A token also knows whether a line ends before it, because a line end may
finish a statement.
-/

namespace EnvTags
namespace Go

/-- The kinds of tokens. -/
inductive Kind
  /-- A name or a keyword, which only the place tells apart. -/
  | word
  /-- An integer, floating-point or imaginary literal. -/
  | number
  /-- A character literal. -/
  | rune
  /-- A string literal between back quotes. -/
  | rawString
  /-- A string literal between double quotes. -/
  | quotedString
  /-- An operator or a punctuation mark. -/
  | symbol
  /-- The end of the text. -/
  | finish
  deriving DecidableEq

/-- A token with what stands before it. -/
structure Token where
  /-- The blanks and comments before the token. -/
  lead : String
  /-- Whether a line ends before the token, outside of all comments. -/
  afterNewline : Bool
  /-- The kind of the token. -/
  kind : Kind
  /-- The token as it is written. -/
  text : String
  deriving DecidableEq

namespace Token

/-- Whether a token is the given operator or punctuation mark. -/
def isSymbol (token : Token) (text : String) : Bool :=
  token.kind == .symbol && token.text == text

/-- Whether a token is the given word. -/
def isWord (token : Token) (text : String) : Bool :=
  token.kind == .word && token.text == text

/-- Whether a token is a string literal of either form. -/
def isString (token : Token) : Bool :=
  token.kind == .rawString || token.kind == .quotedString

/-- The text of a row of tokens, from the first character of the first token to
the last character of the last one. -/
def sourceText : List Token → String
  | [] => ""
  | token :: tokens =>
      tokens.foldl (fun text next => text ++ next.lead ++ next.text) token.text

/-- The text of the tokens of `whole` that stand before its end part `rest`. -/
def textBefore (whole rest : List Token) : String :=
  sourceText (whole.take (whole.length - rest.length))

end Token
end Go
end EnvTags
