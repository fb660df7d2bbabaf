import EnvTags.Text.Digits

/-!
# Interpreted string literals

The body of an interpreted literal is a row of units. A unit is a character
other than a quote, a backslash or a line feed, or an escape: one letter for a
control character, a code point of four or eight hexadecimal digits, or a single
byte of two hexadecimal or three octal digits. The bytes of all units together
have to be valid UTF-8.
-/

namespace EnvTags
namespace Text
namespace Quoted

/-- The character that a one-letter escape stands for. -/
def letterEscape? : Char → Option Char
  | 'n' => some '\n'
  | 't' => some '\t'
  | 'r' => some '\r'
  | 'a' => some '\x07'
  | 'b' => some '\x08'
  | 'f' => some '\x0c'
  | 'v' => some '\x0b'
  | '\\' => some '\\'
  | '"' => some '"'
  | _ => none

/-- The bytes of a code point, unless it is a surrogate or out of range. -/
def codePointBytes? (value : Nat) : Option (List UInt8) :=
  if value.isValidChar then some (String.utf8EncodeChar (Char.ofNat value))
  else none

/-- The single byte with a value below 256. -/
def byte? (value : Nat) : Option (List UInt8) :=
  if value < 256 then some [UInt8.ofNat value] else none

/-- A number read by one of the digit readers, turned into bytes. -/
def numberBytes?
    (toBytes? : Nat → Option (List UInt8))
    (number : Option (Nat × List Char)) : Option (List UInt8 × List Char) :=
  match number with
  | none => none
  | some (value, rest) => (toBytes? value).map fun bytes => (bytes, rest)

/-- The bytes of the escape that starts with the letter `c` after the
backslash. -/
def escape? (c : Char) (rest : List Char) : Option (List UInt8 × List Char) :=
  match letterEscape? c with
  | some d => some (String.utf8EncodeChar d, rest)
  | none =>
      if c = 'x' then numberBytes? byte? (hexNumber? 2 rest)
      else if c = 'u' then numberBytes? codePointBytes? (hexNumber? 4 rest)
      else if c = 'U' then numberBytes? codePointBytes? (hexNumber? 8 rest)
      else numberBytes? byte? (octalNumber? 3 (c :: rest))

/-- The bytes of the first unit of a body, with the rest of the body. -/
def unit? : List Char → Option (List UInt8 × List Char)
  | [] => none
  | [c] =>
      if c = '\\' ∨ c = '"' ∨ c = '\n' then none
      else some (String.utf8EncodeChar c, [])
  | c :: d :: rest =>
      if c = '\\' then escape? d rest
      else if c = '"' ∨ c = '\n' then none
      else some (String.utf8EncodeChar c, d :: rest)

theorem length_of_numberBytes?
    {toBytes? : Nat → Option (List UInt8)}
    {base count : Nat}
    {digit? : Char → Option Nat}
    {text rest : List Char}
    {bytes : List UInt8}
    (read : numberBytes? toBytes? (readDigits base digit? count 0 text) =
      some (bytes, rest)) :
    text.length = rest.length + count := by
  unfold numberBytes? at read
  split at read
  · simp at read
  · rename_i value left number
    obtain ⟨_, _, equal⟩ := Option.map_eq_some_iff.mp read
    obtain ⟨_, rfl⟩ := Prod.mk.inj equal
    exact length_of_readDigits number

theorem length_of_escape?
    {c : Char}
    {text rest : List Char}
    {bytes : List UInt8}
    (read : escape? c text = some (bytes, rest)) :
    rest.length ≤ text.length := by
  unfold escape? at read
  split at read
  · simp only [Option.some.injEq, Prod.mk.injEq] at read
    simp [read.2]
  · split at read
    · have := length_of_numberBytes? read
      omega
    · split at read
      · have := length_of_numberBytes? read
        omega
      · split at read
        · have := length_of_numberBytes? read
          omega
        · have := length_of_numberBytes? read
          simp only [List.length_cons] at this
          omega

/-- A unit takes at least one character off the body. -/
theorem length_of_unit?
    {text rest : List Char}
    {bytes : List UInt8}
    (read : unit? text = some (bytes, rest)) :
    rest.length < text.length := by
  unfold unit? at read
  split at read
  · simp at read
  · split at read
    · simp at read
    · simp only [Option.some.injEq, Prod.mk.injEq] at read
      simp [← read.2]
  · split at read
    · have := length_of_escape? read
      simp only [List.length_cons]
      omega
    · split at read
      · simp at read
      · simp only [Option.some.injEq, Prod.mk.injEq] at read
        simp [← read.2]

/-- The bytes of all units of a body. -/
def bytes? (body : List Char) : Option (List UInt8) :=
  match body with
  | [] => some []
  | c :: text =>
      match _ : unit? (c :: text) with
      | none => none
      | some (bytes, rest) => (bytes? rest).map fun others => bytes ++ others
termination_by body.length
decreasing_by exact length_of_unit? (by assumption)

/-- The string that the body of an interpreted literal stands for. -/
def decode (body : List Char) : Option String :=
  match bytes? body with
  | none => none
  | some bytes => String.fromUTF8? ⟨bytes.toArray⟩

end Quoted
end Text
end EnvTags
