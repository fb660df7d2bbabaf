/-!
# Readers

A reader finds what a text starts with by the number of characters it takes.
-/

namespace EnvTags
namespace Text

/-- A reader answers how many characters it takes from the start of a text. -/
abbrev Reader := List Char → Option Nat

namespace Reader

/-- One character of a class. -/
def one (accepts : Char → Bool) : Reader
  | [] => none
  | c :: _ => if accepts c then some 1 else none

/-- One of some characters. -/
def oneOf (chars : List Char) : Reader :=
  one fun c => chars.contains c

/-- A run of one or more characters of a class. -/
def run (accepts : Char → Bool) : Reader
  | [] => none
  | c :: rest =>
      if accepts c then some (1 + (rest.takeWhile accepts).length) else none

/-- One reader after the other. -/
def andThen (first second : Reader) : Reader := fun text =>
  match first text with
  | none => none
  | some count => (second (text.drop count)).map (count + ·)

/-- A reader that may be left out. -/
def optionally (reader : Reader) : Reader := fun text =>
  some ((reader text).getD 0)

/-- The longer of two readings. -/
def longer (best other : Option Nat) : Option Nat :=
  match best, other with
  | some old, some new => some (max old new)
  | some old, none => some old
  | none, other => other

/-- The longest of some readings. -/
def longest (readers : List Reader) : Reader := fun text =>
  readers.foldl (fun best reader => longer best (reader text)) none

end Reader
end Text
end EnvTags
