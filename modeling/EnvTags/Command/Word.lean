import EnvTags.Text.Split

/-!
# Words of a command line

A word that starts with two hyphens is a long option, which may carry a value
after an equals sign. A word that starts with one hyphen is a bundle of short
options. Two hyphens alone end the options, and a single hyphen is an ordinary
word.
-/

namespace EnvTags
namespace Command

/-- What a word of a command line is. -/
inductive Word
  /-- The end of the options. -/
  | separator
  /-- A long option with the value that is attached to it. -/
  | long (name : String) (attached : Option String)
  /-- One or more short options, perhaps with a value behind them. -/
  | short (letters : List Char)
  /-- Anything else. -/
  | plain (text : String)
  deriving DecidableEq

/-- The long option whose text, without the hyphens, is given. -/
def Word.ofLong (characters : List Char) : Word :=
  match Text.cut '=' characters with
  | none => .long (String.ofList characters) none
  | some (name, value) => .long (String.ofList name) (some (String.ofList value))

/-- The word with a given text. -/
def Word.ofString (text : String) : Word :=
  match text.toList with
  | ['-', '-'] => .separator
  | '-' :: '-' :: characters => .ofLong characters
  | '-' :: letter :: letters => .short (letter :: letters)
  | _ => .plain text

end Command
end EnvTags
