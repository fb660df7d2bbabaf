/-!
# Numbers written in digits

Reading a fixed count of digits in base eight or sixteen.
-/

namespace EnvTags
namespace Text

/-- The value of a hexadecimal digit of either case. -/
def hexValue? (c : Char) : Option Nat :=
  if '0' ≤ c ∧ c ≤ '9' then some (c.toNat - '0'.toNat)
  else if 'a' ≤ c ∧ c ≤ 'f' then some (c.toNat - 'a'.toNat + 10)
  else if 'A' ≤ c ∧ c ≤ 'F' then some (c.toNat - 'A'.toNat + 10)
  else none

/-- The value of an octal digit. -/
def octalValue? (c : Char) : Option Nat :=
  if '0' ≤ c ∧ c ≤ '7' then some (c.toNat - '0'.toNat) else none

/-- Read exactly `count` digits after those that gave `value`, and answer the
number with the text that is left. -/
def readDigits
    (base : Nat)
    (digit? : Char → Option Nat) :
    (count value : Nat) → List Char → Option (Nat × List Char)
  | 0, value, text => some (value, text)
  | _ + 1, _, [] => none
  | count + 1, value, c :: text =>
      match digit? c with
      | none => none
      | some digit => readDigits base digit? count (value * base + digit) text

/-- Reading `count` digits takes `count` characters off the text. -/
theorem length_of_readDigits
    {base : Nat}
    {digit? : Char → Option Nat}
    {count value result : Nat}
    {text rest : List Char}
    (read : readDigits base digit? count value text = some (result, rest)) :
    text.length = rest.length + count := by
  induction count generalizing value text with
  | zero =>
      simp only [readDigits, Option.some.injEq, Prod.mk.injEq] at read
      simp [read.2]
  | succ count inductionHypothesis =>
      cases text with
      | nil => simp [readDigits] at read
      | cons c text =>
          simp only [readDigits] at read
          split at read
          · simp at read
          · have shorter := inductionHypothesis read
            simp only [List.length_cons]
            omega

/-- Exactly `count` hexadecimal digits. -/
def hexNumber? (count : Nat) (text : List Char) : Option (Nat × List Char) :=
  readDigits 16 hexValue? count 0 text

/-- Exactly `count` octal digits. -/
def octalNumber? (count : Nat) (text : List Char) : Option (Nat × List Char) :=
  readDigits 8 octalValue? count 0 text

end Text
end EnvTags
