import EnvTags.Go.Token
import EnvTags.Text.Digits
import EnvTags.Text.Reader
import EnvTags.Text.Word

/-!
# Lexemes

A lexeme is found by the number of characters it takes from the start of a text.
Of several readings of a number the longest one counts.
-/

namespace EnvTags
namespace Go
namespace Lexeme

open Text.Reader

/-- The rest of a run of digits, in which single underscores may stand before
digits. -/
def moreDigits (isDigit : Char → Bool) : List Char → Nat
  | [] => 0
  | [c] => if isDigit c then 1 else 0
  | c :: d :: rest =>
      if isDigit c then 1 + moreDigits isDigit (d :: rest)
      else if c = '_' ∧ isDigit d then 2 + moreDigits isDigit rest
      else 0

/-- A run of digits, in which single underscores may stand between digits. -/
def digits (isDigit : Char → Bool) : Text.Reader
  | [] => none
  | c :: rest =>
      if isDigit c then some (1 + moreDigits isDigit rest) else none

/-- A hexadecimal digit. -/
def isHexDigit (c : Char) : Bool :=
  (Text.hexValue? c).isSome

/-- An octal digit. -/
def isOctalDigit (c : Char) : Bool :=
  (Text.octalValue? c).isSome

/-- A binary digit. -/
def isBinaryDigit (c : Char) : Bool :=
  c == '0' || c == '1'

/-- Digits after a zero and a letter for their base. -/
def basedInteger (letters : List Char) (isDigit : Char → Bool) : Text.Reader :=
  andThen (oneOf ['0']) (andThen (oneOf letters)
    (andThen (optionally (oneOf ['_'])) (digits isDigit)))

/-- A decimal number, which has no zero in front of other digits. -/
def decimalInteger : Text.Reader :=
  longest [oneOf ['0'],
    andThen (one fun c => '1' ≤ c && c ≤ '9')
      (optionally (andThen (optionally (oneOf ['_'])) (digits Char.isDigit)))]

/-- An octal number, with or without a letter for its base. -/
def octalInteger : Text.Reader :=
  longest [basedInteger ['o', 'O'] isOctalDigit,
    andThen (oneOf ['0'])
      (andThen (optionally (oneOf ['_'])) (digits isOctalDigit))]

/-- An integer literal. -/
def integer : Text.Reader :=
  longest [basedInteger ['b', 'B'] isBinaryDigit, decimalInteger, octalInteger,
    basedInteger ['x', 'X'] isHexDigit]

/-- An exponent with one of some letters. -/
def exponent (letters : List Char) : Text.Reader :=
  andThen (oneOf letters)
    (andThen (optionally (oneOf ['+', '-'])) (digits Char.isDigit))

/-- A floating-point literal in decimal digits. -/
def decimalFloat : Text.Reader :=
  longest [
    andThen (digits Char.isDigit) (andThen (oneOf ['.'])
      (andThen (optionally (digits Char.isDigit))
        (optionally (exponent ['e', 'E'])))),
    andThen (digits Char.isDigit) (exponent ['e', 'E']),
    andThen (oneOf ['.']) (andThen (digits Char.isDigit)
      (optionally (exponent ['e', 'E'])))]

/-- What stands before the exponent of a hexadecimal floating-point literal. -/
def hexMantissa : Text.Reader :=
  longest [
    andThen (optionally (oneOf ['_'])) (andThen (digits isHexDigit)
      (andThen (oneOf ['.']) (optionally (digits isHexDigit)))),
    andThen (optionally (oneOf ['_'])) (digits isHexDigit),
    andThen (oneOf ['.']) (digits isHexDigit)]

/-- A floating-point literal in hexadecimal digits. -/
def hexFloat : Text.Reader :=
  andThen (oneOf ['0']) (andThen (oneOf ['x', 'X'])
    (andThen hexMantissa (exponent ['p', 'P'])))

/-- An imaginary literal. -/
def imaginary : Text.Reader :=
  longest ([digits Char.isDigit, integer, decimalFloat, hexFloat].map
    fun reader => andThen reader (oneOf ['i']))

/-- A literal for a number. -/
def number : Text.Reader :=
  longest [integer, decimalFloat, hexFloat, imaginary]

/-- A word. -/
def word : Text.Reader
  | [] => none
  | c :: rest =>
      if Text.isWordStart c then
        some (1 + (rest.takeWhile Text.isWordPart).length)
      else none

/-- The escape of a character literal, after the backslash. -/
def runeEscape : Text.Reader :=
  longest [
    oneOf ['a', 'b', 'f', 'n', 'r', 't', 'v', '\\', '\'', '"'],
    andThen (oneOf ['x']) fun text => (Text.hexNumber? 2 text).map fun _ => 2,
    andThen (oneOf ['u']) fun text => (Text.hexNumber? 4 text).map fun _ => 4,
    andThen (oneOf ['U']) fun text => (Text.hexNumber? 8 text).map fun _ => 8,
    fun text => (Text.octalNumber? 3 text).map fun _ => 3]

/-- A character literal. -/
def rune : Text.Reader :=
  andThen (oneOf ['\'']) (andThen
    (longest [one fun c => c != '\'' && c != '\\',
      andThen (oneOf ['\\']) runeEscape])
    (oneOf ['\'']))

/-- The text up to and with a closing mark. -/
def upTo (mark : Char) : List Char → Option Nat
  | [] => none
  | c :: rest =>
      if c = mark then some 1 else (upTo mark rest).map (1 + ·)

/-- A string literal between back quotes. -/
def rawString : Text.Reader :=
  andThen (oneOf ['\x60']) (upTo '\x60')

/-- Whether the letter `c` and the text after it can stand after a backslash in
a string literal. -/
def escapeFits (c : Char) (rest : List Char) : Bool :=
  if c = 'x' then (Text.hexNumber? 2 rest).isSome
  else if c = 'u' then (Text.hexNumber? 4 rest).isSome
  else if c = 'U' then (Text.hexNumber? 8 rest).isSome
  else true

/-- The text of a string literal up to and with its closing quote. -/
def stringEnd : List Char → Option Nat
  | [] => none
  | [c] => if c = '"' then some 1 else none
  | c :: d :: rest =>
      if c = '"' then some 1
      else if c = '\n' then none
      else if c = '\\' then
        if escapeFits d rest then (stringEnd rest).map (2 + ·) else none
      else (stringEnd (d :: rest)).map (1 + ·)

/-- A string literal between double quotes. -/
def quotedString : Text.Reader :=
  andThen (oneOf ['"']) stringEnd

/-- The operators and punctuation marks, longer ones first. -/
def symbols : List (List Char) :=
  ["<<=", ">>=", "&^=", "...", "&&", "||", "<-", "++", "--", "==", "!=", "<=",
   ">=", ":=", "+=", "-=", "*=", "/=", "%=", "&=", "|=", "^=", "<<", ">>", "&^",
   "+", "-", "*", "/", "%", "&", "|", "^", "<", ">", "=", "!", "(", ")", "[",
   "]", "\x7b", "\x7d", ",", ";", ".", ":", "~"].map String.toList

/-- The longest operator or punctuation mark. -/
def symbol : Text.Reader := fun text =>
  (symbols.find? fun mark => mark.isPrefixOf text).map List.length

/-- The kinds of lexemes with their readers, in the order of preference. -/
def readers : List (Kind × Text.Reader) :=
  [(.word, word), (.number, number), (.rune, rune), (.rawString, rawString),
   (.quotedString, quotedString), (.symbol, symbol)]

/-- The lexeme at the start of a text: its kind and its length. -/
def first? (text : List Char) : Option (Kind × Nat) :=
  readers.findSome? fun reader =>
    (reader.2 text).map fun count => (reader.1, count)

/-- The blanks between tokens. -/
def isBlank (c : Char) : Bool :=
  c == ' ' || ('\t' ≤ c && c ≤ '\r')

/-- The text of a comment up to and with its closing mark. -/
def commentEnd : List Char → Option Nat
  | [] => none
  | [_] => none
  | c :: d :: rest =>
      if c = '*' ∧ d = '/' then some 2
      else (commentEnd (d :: rest)).map (1 + ·)

/-- One blank, or one comment of either form. -/
def trivia : Text.Reader
  | [] => none
  | [c] => if isBlank c then some 1 else none
  | c :: d :: rest =>
      if isBlank c then some 1
      else if c = '/' ∧ d = '/' then
        some (2 + (rest.takeWhile (· != '\n')).length)
      else if c = '/' ∧ d = '*' then (commentEnd rest).map (2 + ·)
      else none

end Lexeme
end Go
end EnvTags
