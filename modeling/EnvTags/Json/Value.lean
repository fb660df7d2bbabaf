import EnvTags.Json.Token

/-!
# JSON values

The value that a JSON text writes. Numbers are not told apart, since no setting is
a number, and strings are kept as they are written.
-/

namespace EnvTags
namespace Json

/-- A JSON value. -/
inductive Value
  | null
  | bool
  | number
  /-- A string, as it stands between its quotes. -/
  | string (raw : List Char)
  | array (elements : List Value)
  /-- An object, whose keys are written like strings. -/
  | object (members : List (List Char × Value))

namespace Value

mutual

/-- The value at the start of some tokens, with the tokens after it. -/
def read : Nat → List Token → Option (Value × List Token)
  | 0, _ => none
  | _ + 1, [] => none
  | depth + 1, token :: tokens =>
      match token with
      | .null => some (null, tokens)
      | .true => some (bool, tokens)
      | .false => some (bool, tokens)
      | .number => some (number, tokens)
      | .string raw => some (string raw, tokens)
      | .openBracket =>
          match tokens with
          | .closeBracket :: rest => some (array [], rest)
          | _ =>
              (readElements depth tokens).map fun (elements, rest) =>
                (array elements, rest)
      | .openBrace =>
          match tokens with
          | .closeBrace :: rest => some (object [], rest)
          | _ =>
              (readMembers depth tokens).map fun (members, rest) =>
                (object members, rest)
      | _ => none

/-- The elements of an array up to its closing bracket. -/
def readElements : Nat → List Token → Option (List Value × List Token)
  | 0, _ => none
  | depth + 1, tokens =>
      match read depth tokens with
      | some (value, .closeBracket :: rest) => some ([value], rest)
      | some (value, .comma :: rest) =>
          (readElements depth rest).map fun (values, others) =>
            (value :: values, others)
      | _ => none

/-- The members of an object up to its closing brace. -/
def readMembers : Nat → List Token → Option (List (List Char × Value) × List Token)
  | 0, _ => none
  | depth + 1, .string key :: .colon :: tokens =>
      match read depth tokens with
      | some (value, .closeBrace :: rest) => some ([(key, value)], rest)
      | some (value, .comma :: rest) =>
          (readMembers depth rest).map fun (members, others) =>
            ((key, value) :: members, others)
      | _ => none
  | _ + 1, _ => none

end

/-- The value that a text writes, absent when it is not JSON. Each token is read
by at most two nested calls. -/
def parse? (text : String) : Option Value :=
  match Token.scan text.toList with
  | none => none
  | some tokens =>
      match read (2 * tokens.length + 1) tokens with
      | some (value, []) => some value
      | _ => none

/-- The character that a one-letter escape stands for. -/
def letterEscape? : Char → Option Char
  | '"' => some '"'
  | '\\' => some '\\'
  | '/' => some '/'
  | 'b' => some '\x08'
  | 'f' => some '\x0c'
  | 'n' => some '\n'
  | 'r' => some '\r'
  | 't' => some '\t'
  | _ => none

/-- Whether a number is the first half of a pair of escapes. -/
def isHighHalf (value : Nat) : Bool :=
  0xD800 ≤ value && value < 0xDC00

/-- Whether a number is the second half of a pair of escapes. -/
def isLowHalf (value : Nat) : Bool :=
  0xDC00 ≤ value && value < 0xE000

/-- The character that two halves stand for. -/
def joinHalves (high low : Nat) : Char :=
  Char.ofNat (0x10000 + (high - 0xD800) * 0x400 + (low - 0xDC00))

/-- The second half of a pair of escapes. -/
def lowHalf? : List Char → Option (Nat × List Char)
  | '\\' :: 'u' :: rest =>
      match Text.hexNumber? 4 rest with
      | some (low, others) => if isLowHalf low then some (low, others) else none
      | none => none
  | _ => none

/-- The character of a numeric escape, after its letter. Halves have to come in
pairs. -/
def numericEscape? (text : List Char) : Option (Char × List Char) :=
  match Text.hexNumber? 4 text with
  | none => none
  | some (value, rest) =>
      if isHighHalf value then
        (lowHalf? rest).map fun (low, others) => (joinHalves value low, others)
      else if isLowHalf value then none
      else some (Char.ofNat value, rest)

/-- The first character of the rest of a string, with what follows it. -/
def character? : List Char → Option (Char × List Char)
  | [] => none
  | '\\' :: 'u' :: rest => numericEscape? rest
  | '\\' :: c :: rest => (letterEscape? c).map fun d => (d, rest)
  | c :: rest => some (c, rest)

theorem length_of_numericEscape?
    {text rest : List Char}
    {c : Char}
    (read : numericEscape? text = some (c, rest)) :
    rest.length ≤ text.length := by
  unfold numericEscape? at read
  split at read
  · simp at read
  · rename_i value others number
    have taken := Text.length_of_readDigits number
    split at read
    · obtain ⟨⟨low, left⟩, half, equal⟩ := Option.map_eq_some_iff.mp read
      obtain ⟨_, rfl⟩ := Prod.mk.inj equal
      unfold lowHalf? at half
      split at half
      · split at half
        · rename_i lowNumber
          split at half
          · simp only [Option.some.injEq, Prod.mk.injEq] at half
            have more := Text.length_of_readDigits lowNumber
            simp only [List.length_cons] at taken
            rw [← half.2]
            omega
          · simp at half
        · simp at half
      · simp at half
    · split at read
      · simp at read
      · simp only [Option.some.injEq, Prod.mk.injEq] at read
        rw [← read.2]
        omega

theorem length_of_character?
    {text rest : List Char}
    {c : Char}
    (read : character? text = some (c, rest)) :
    rest.length < text.length := by
  unfold character? at read
  split at read
  · simp at read
  · have := length_of_numericEscape? read
    simp only [List.length_cons]
    omega
  · obtain ⟨_, _, equal⟩ := Option.map_eq_some_iff.mp read
    obtain ⟨_, rfl⟩ := Prod.mk.inj equal
    simp only [List.length_cons]
    omega
  · simp only [Option.some.injEq, Prod.mk.injEq] at read
    simp [read.2]

/-- The characters that a written string stands for. -/
def decode (raw : List Char) : Option (List Char) :=
  match raw with
  | [] => some []
  | c :: others =>
      match _ : character? (c :: others) with
      | none => none
      | some (d, rest) => (decode rest).map (d :: ·)
termination_by raw.length
decreasing_by exact length_of_character? (by assumption)

/-- The string that a value is. -/
def string? : Value → Option String
  | string raw => (decode raw).map String.ofList
  | _ => none

/-- The strings of a list of values, if all are strings. -/
def allStrings? : List Value → Option (List String)
  | [] => some []
  | value :: values =>
      match value.string?, allStrings? values with
      | some text, some texts => some (text :: texts)
      | _, _ => none

/-- The strings that an array of strings holds. -/
def strings? : Value → Option (List String)
  | array elements => allStrings? elements
  | _ => none

end Value
end Json
end EnvTags
