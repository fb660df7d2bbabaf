import EnvTags.Text.Digits
import EnvTags.Text.Reader

/-!
# JSON tokens

A JSON text is read as punctuation marks, strings, numbers and the three words.
A string is kept as it is written; its escapes have to be of the known forms, but
what code points they stand for is checked only when the string is decoded.
-/

namespace EnvTags
namespace Json

/-- A token of a JSON text. -/
inductive Token
  | openBrace
  | closeBrace
  | openBracket
  | closeBracket
  | colon
  | comma
  /-- A string, as it stands between its quotes. -/
  | string (raw : List Char)
  | number
  | null
  | true
  | false
  deriving DecidableEq

namespace Token

/-- The blanks between tokens. -/
def isBlank (c : Char) : Bool :=
  c == ' ' || c == '\n' || c == '\t' || c == '\r'

/-- Whether the letter `c` and the text after it can stand after a backslash. -/
def escapeFits (c : Char) (rest : List Char) : Bool :=
  ['"', '\\', '/', 'b', 'f', 'n', 'r', 't'].contains c ||
    (c == 'u' && (Text.hexNumber? 4 rest).isSome)

/-- The text of a string up to its closing quote, and what follows the quote. A
control character is not allowed. -/
def stringBody : List Char → Option (List Char × List Char)
  | [] => none
  | [c] => if c = '"' then some ([], []) else none
  | c :: d :: rest =>
      if c = '"' then some ([], d :: rest)
      else if c < ' ' then none
      else if c = '\\' then
        if escapeFits d rest then
          (stringBody rest).map fun parts => (c :: d :: parts.1, parts.2)
        else none
      else (stringBody (d :: rest)).map fun parts => (c :: parts.1, parts.2)

theorem length_of_stringBody
    {text body rest : List Char}
    (read : stringBody text = some (body, rest)) :
    rest.length < text.length := by
  fun_induction stringBody text generalizing body with
  | case1 => simp at read
  | case2 => simp_all
  | case3 => simp at read
  | case4 => simp_all
  | case5 => simp at read
  | case6 d text _ _ _ inductionHypothesis =>
      obtain ⟨⟨left, right⟩, found, equal⟩ := Option.map_eq_some_iff.mp read
      obtain ⟨_, rfl⟩ := Prod.mk.inj equal
      have shorter := inductionHypothesis found
      simp only [List.length_cons] at shorter ⊢
      omega
  | case7 => simp at read
  | case8 c d text _ _ _ inductionHypothesis =>
      obtain ⟨⟨left, right⟩, found, equal⟩ := Option.map_eq_some_iff.mp read
      obtain ⟨_, rfl⟩ := Prod.mk.inj equal
      have shorter := inductionHypothesis found
      simp only [List.length_cons] at shorter ⊢
      omega

open Text.Reader in
/-- The characters of a number. -/
def numberLength : Text.Reader :=
  andThen (optionally (oneOf ['-'])) (andThen
    (longest [oneOf ['0'],
      andThen (one fun c => '1' ≤ c && c ≤ '9') (optionally (run Char.isDigit))])
    (andThen (optionally (andThen (oneOf ['.']) (run Char.isDigit)))
      (optionally (andThen (oneOf ['e', 'E'])
        (andThen (optionally (oneOf ['+', '-'])) (run Char.isDigit))))))

/-- The punctuation mark that a character is. -/
def mark? : Char → Option Token
  | '\x7b' => some openBrace
  | '\x7d' => some closeBrace
  | '[' => some openBracket
  | ']' => some closeBracket
  | ':' => some colon
  | ',' => some comma
  | _ => none

/-- The words of JSON. -/
def words : List (List Char × Token) :=
  [("null".toList, null), ("true".toList, true), ("false".toList, false)]

/-- The length of the word or number at the start of a text, with its token. -/
def wordOrNumber? (text : List Char) : Option (Token × Nat) :=
  match words.find? fun word => word.1.isPrefixOf text with
  | some (word, token) => some (token, word.length)
  | none => (numberLength text).map fun count => (number, count)

/-- The tokens of a text, absent when some place has none. -/
def scan (text : List Char) : Option (List Token) :=
  match text with
  | [] => some []
  | c :: rest =>
      if isBlank c then scan rest
      else if c = '"' then
        match _ : stringBody rest with
        | none => none
        | some (body, others) => (scan others).map (string body :: ·)
      else
        match mark? c with
        | some mark => (scan rest).map (mark :: ·)
        | none =>
            match wordOrNumber? (c :: rest) with
            | some (token, count + 1) =>
                (scan (rest.drop count)).map (token :: ·)
            | _ => none
termination_by text.length
decreasing_by
  all_goals simp only [List.length_cons, List.length_drop]
  all_goals try omega
  have shorter := length_of_stringBody (by assumption)
  omega

end Token
end Json
end EnvTags
