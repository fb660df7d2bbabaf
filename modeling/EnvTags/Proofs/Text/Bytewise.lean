import EnvTags.Proofs.Text.Encoding
import EnvTags.Text.Quoted

/-!
# Unquoting byte by byte

A literal in quotes can be unquoted without decoding it first. Its bytes are read
from the first quote on, one unit after the other, up to a quote that starts no
unit, which has to be the last byte. A unit is a byte below 128, an encoded
character, or a backslash with the letter and the digits of an escape. Here this
reading is defined, and shown to give the bytes that the units of the body stand
for.
-/

namespace EnvTags
namespace Text
namespace Bytewise

/-- What is read at the start of the body of a literal. -/
structure Reading where
  /-- The number that is read. -/
  value : Nat
  /-- Whether the number is that of a code point and not that of a byte. -/
  isCodePoint : Bool
  /-- The bytes behind it. -/
  rest : List UInt8
  deriving DecidableEq

/-- The bytes that the number stands for. -/
def Reading.bytes (reading : Reading) : List UInt8 :=
  if reading.value < 128 || !reading.isCodePoint then
    [UInt8.ofNat reading.value]
  else String.utf8EncodeChar (Char.ofNat reading.value)

/-- The value of a hexadecimal digit of either case. -/
def hexValue? (byte : UInt8) : Option Nat :=
  if '0'.toUInt8 ≤ byte && byte ≤ '9'.toUInt8 then
    some (byte.toNat - '0'.toNat)
  else if 'a'.toUInt8 ≤ byte && byte ≤ 'f'.toUInt8 then
    some (byte.toNat - 'a'.toNat + 10)
  else if 'A'.toUInt8 ≤ byte && byte ≤ 'F'.toUInt8 then
    some (byte.toNat - 'A'.toNat + 10)
  else none

/-- The value of an octal digit. -/
def octalValue? (byte : UInt8) : Option Nat :=
  if '0'.toUInt8 ≤ byte && byte ≤ '7'.toUInt8 then
    some (byte.toNat - '0'.toNat)
  else none

/-- Read exactly `count` digits after those that gave `value`. -/
def digits? (base : Nat) (digit? : UInt8 → Option Nat) :
    (count value : Nat) → List UInt8 → Option (Nat × List UInt8)
  | 0, value, bytes => some (value, bytes)
  | _ + 1, _, [] => none
  | count + 1, value, byte :: bytes =>
      match digit? byte with
      | none => none
      | some digit => digits? base digit? count (value * base + digit) bytes

/-- The bytes that escapes of one letter stand for, by the letter. -/
def letters : List (UInt8 × Nat) :=
  [('a'.toUInt8, 0x07), ('b'.toUInt8, 0x08), ('f'.toUInt8, 0x0c),
   ('n'.toUInt8, 0x0a), ('r'.toUInt8, 0x0d), ('t'.toUInt8, 0x09),
   ('v'.toUInt8, 0x0b), ('\\'.toUInt8, 0x5c), ('"'.toUInt8, 0x22)]

/-- The number is that of a byte. -/
def isByte (value : Nat) : Bool :=
  value < 0x100

/-- The number is that of a code point, and not of a surrogate. -/
def isScalar (value : Nat) : Bool :=
  value < 0xd800 || (0xdfff < value && value < 0x110000)

/-- The reading of a number in digits that has to be in a range. -/
def number? (inRange : Nat → Bool) (isCodePoint : Bool) :
    Option (Nat × List UInt8) → Option Reading
  | none => none
  | some (value, rest) =>
      if inRange value then some ⟨value, isCodePoint, rest⟩ else none

/-- The reading of an escape, given by the byte behind the backslash and those
behind it. -/
def escape? (letter : UInt8) (rest : List UInt8) : Option Reading :=
  match letters.lookup letter with
  | some value => some ⟨value, false, rest⟩
  | none =>
      if letter = 'x'.toUInt8 then
        number? isByte false (digits? 16 hexValue? 2 0 rest)
      else if letter = 'u'.toUInt8 then
        number? isScalar true (digits? 16 hexValue? 4 0 rest)
      else if letter = 'U'.toUInt8 then
        number? isScalar true (digits? 16 hexValue? 8 0 rest)
      else
        match octalValue? letter with
        | none => none
        | some first => number? isByte false (digits? 8 octalValue? 2 first rest)

/-- The reading of an encoded character. Bytes that encode none are read as one
byte for the replacement character. -/
def encoded (bytes : List UInt8) : Reading :=
  match ByteArray.utf8DecodeChar? ⟨bytes.toArray⟩ 0 with
  | some c => ⟨c.toNat, true, bytes.drop c.utf8Size⟩
  | none => ⟨0xfffd, true, bytes.drop 1⟩

/-- The reading of the first unit of a body. -/
def unit? : List UInt8 → Option Reading
  | [] => none
  | byte :: rest =>
      if byte = '"'.toUInt8 then none
      else if 128 ≤ byte.toNat then some (encoded (byte :: rest))
      else if byte ≠ '\\'.toUInt8 then some ⟨byte.toNat, false, rest⟩
      else
        match rest with
        | [] => none
        | letter :: rest => escape? letter rest

theorem length_of_number?
    {inRange : Nat → Bool}
    {isCodePoint : Bool}
    {base count value : Nat}
    {digit? : UInt8 → Option Nat}
    {bytes : List UInt8}
    {reading : Reading}
    (read : number? inRange isCodePoint (digits? base digit? count value bytes) =
      some reading) :
    reading.rest.length ≤ bytes.length := by
  induction count generalizing value bytes with
  | zero =>
      rw [digits?, number?] at read
      split at read
      · obtain rfl := Option.some.inj read
        exact Nat.le_refl _
      · cases read
  | succ count inductionHypothesis =>
      cases bytes with
      | nil => cases read
      | cons byte bytes =>
          rw [digits?] at read
          split at read
          · cases read
          · exact Nat.le_succ_of_le (inductionHypothesis read)

theorem length_of_escape?
    {letter : UInt8}
    {bytes : List UInt8}
    {reading : Reading}
    (read : escape? letter bytes = some reading) :
    reading.rest.length ≤ bytes.length := by
  unfold escape? at read
  split at read
  · obtain rfl := Option.some.inj read
    exact Nat.le_refl _
  · split at read
    · exact length_of_number? read
    · split at read
      · exact length_of_number? read
      · split at read
        · exact length_of_number? read
        · split at read
          · cases read
          · exact length_of_number? read

/-- A unit takes at least one byte off the body. -/
theorem length_of_unit?
    {bytes : List UInt8}
    {reading : Reading}
    (read : unit? bytes = some reading) :
    reading.rest.length < bytes.length := by
  unfold unit? at read
  split at read
  · cases read
  · split at read
    · cases read
    · split at read
      · obtain rfl := Option.some.inj read
        unfold encoded
        split
        · rename_i c _
          have positive := c.utf8Size_pos
          simp only [List.length_drop, List.length_cons]
          omega
        · simp
      · split at read
        · obtain rfl := Option.some.inj read
          simp
        · split at read
          · cases read
          · have shorter := length_of_escape? read
            simp only [List.length_cons]
            omega

/-- The bytes that a body stands for, up to the quote at its end, and the bytes
behind that quote. -/
def body? (bytes : List UInt8) : Option (List UInt8 × List UInt8) :=
  match bytes with
  | [] => none
  | byte :: rest =>
      if byte = '"'.toUInt8 then some ([], rest)
      else if byte = '\n'.toUInt8 then none
      else
        match _ : unit? (byte :: rest) with
        | none => none
        | some reading =>
            (body? reading.rest).map fun parts =>
              (reading.bytes ++ parts.1, parts.2)
termination_by bytes.length
decreasing_by exact length_of_unit? (by assumption)

/-- What is read of a body, if nothing stands behind the quote at its end. -/
def whole? : Option (List UInt8 × List UInt8) → Option (List UInt8)
  | some (value, []) => some value
  | _ => none

/-- The bytes that a literal in quotes stands for. -/
def unquote : List UInt8 → Option (List UInt8)
  | [] => none
  | byte :: rest => if byte = '"'.toUInt8 then whole? (body? rest) else none

/-! ## Encoded texts -/

/-- Bytes and characters are read alike: below 128 they give the same, and from
there on neither gives anything. -/
structure ReadAlike
    {α : Type}
    (ofByte : UInt8 → Option α)
    (ofChar : Char → Option α) : Prop where
  small : ∀ c : Char, c.toNat < 128 → ofByte c.toUInt8 = ofChar c
  wideByte : ∀ byte : UInt8, 128 ≤ byte.toNat → ofByte byte = none
  wideChar : ∀ c : Char, 128 ≤ c.toNat → ofChar c = none

theorem ReadAlike.of_lt
    {α : Type}
    {ofByte : UInt8 → Option α}
    {ofChar : Char → Option α}
    (small : ∀ value < 128,
      ofByte (Char.ofNat value).toUInt8 = ofChar (Char.ofNat value))
    (wideByte : ∀ byte : UInt8, 128 ≤ byte.toNat → ofByte byte = none)
    (wideChar : ∀ c : Char, 128 ≤ c.toNat → ofChar c = none) :
    ReadAlike ofByte ofChar where
  small c below := by
    have atNumber := small c.toNat below
    rwa [Char.ofNat_toNat] at atNumber
  wideByte := wideByte
  wideChar := wideChar

theorem not_le_of_wideByte
    {byte bound : UInt8}
    (wide : 128 ≤ byte.toNat)
    (small : bound.toNat < 128) :
    ¬byte ≤ bound := by
  rw [UInt8.le_iff_toNat_le]
  omega

theorem octalValue?_readAlike : ReadAlike octalValue? Text.octalValue? := by
  apply ReadAlike.of_lt
  · decide
  · intro byte wide
    have above : ¬byte ≤ '7'.toUInt8 := not_le_of_wideByte wide (by decide)
    simp [octalValue?, above]
  · intro c wide
    have above : ¬c ≤ '7' := not_le_of_wideChar wide (by decide)
    simp [Text.octalValue?, above]

theorem hexValue?_readAlike : ReadAlike hexValue? Text.hexValue? := by
  apply ReadAlike.of_lt
  · decide
  · intro byte wide
    have above9 : ¬byte ≤ '9'.toUInt8 := not_le_of_wideByte wide (by decide)
    have aboveF : ¬byte ≤ 'F'.toUInt8 := not_le_of_wideByte wide (by decide)
    have abovef : ¬byte ≤ 'f'.toUInt8 := not_le_of_wideByte wide (by decide)
    simp [hexValue?, above9, aboveF, abovef]
  · intro c wide
    have above9 : ¬c ≤ '9' := not_le_of_wideChar wide (by decide)
    have aboveF : ¬c ≤ 'F' := not_le_of_wideChar wide (by decide)
    have abovef : ¬c ≤ 'f' := not_le_of_wideChar wide (by decide)
    simp [Text.hexValue?, above9, aboveF, abovef]

theorem letters_readAlike :
    ReadAlike (fun byte => letters.lookup byte)
      (fun c => (Quoted.letterEscape? c).map Char.toNat) := by
  apply ReadAlike.of_lt
  · decide
  · intro byte wide
    have small : ∀ pair ∈ letters, pair.1.toNat < 128 := by decide
    rw [List.lookup_eq_none_iff]
    intro pair inside
    have different : byte ≠ pair.1 := by
      rintro rfl
      exact absurd (small pair inside) (Nat.not_lt.mpr wide)
    simpa using different
  · intro c wide
    unfold Quoted.letterEscape?
    split <;> first | exact absurd wide (by decide) | rfl

/-- The bytes of a body and of the quote behind it. -/
def ended (body : List Char) : List UInt8 :=
  encode body ++ ['"'.toUInt8]

theorem ended_cons (c : Char) (body : List Char) :
    ended (c :: body) = String.utf8EncodeChar c ++ ended body := by
  simp [ended]

/-- A unit in characters, as it is read in bytes. -/
def inBytes (unit : List UInt8 × List Char) : List UInt8 × List UInt8 :=
  (unit.1, ended unit.2)

/-- The bytes that a unit stands for, and those behind it. -/
def Reading.parts (reading : Reading) : List UInt8 × List UInt8 :=
  (reading.bytes, reading.rest)

/-- Digits are read alike. The quote behind the body is none. -/
theorem digits?_ended
    {ofByte : UInt8 → Option Nat}
    {ofChar : Char → Option Nat}
    (alike : ReadAlike ofByte ofChar)
    (notQuote : ofChar '"' = none)
    (base count value : Nat)
    (body : List Char) :
    digits? base ofByte count value (ended body) =
      (readDigits base ofChar count value body).map fun number =>
        (number.1, ended number.2) := by
  induction count generalizing value body with
  | zero => rfl
  | succ count inductionHypothesis =>
      cases body with
      | nil =>
          have noDigit := (alike.small '"' (by decide)).trans notQuote
          simp [ended, digits?, readDigits, noDigit]
      | cons c body =>
          rw [ended_cons, readDigits]
          rcases utf8EncodeChar_cases c with
            ⟨small, encoded⟩ | ⟨wide, first, others, encoded, high⟩
          · rw [encoded, List.singleton_append, digits?, alike.small c small]
            cases ofChar c with
            | none => rfl
            | some digit => exact inductionHypothesis (value * base + digit) body
          · rw [encoded, List.cons_append, digits?, alike.wideByte first high,
              alike.wideChar c wide]
            rfl

/-- Numbers in digits are read alike if the same numbers are in range. -/
theorem number?_ended
    {ofByte : UInt8 → Option Nat}
    {ofChar : Char → Option Nat}
    (alike : ReadAlike ofByte ofChar)
    (notQuote : ofChar '"' = none)
    {inRange : Nat → Bool}
    {isCodePoint : Bool}
    {toBytes? : Nat → Option (List UInt8)}
    (sameBytes : ∀ value, toBytes? value =
      if inRange value then some (Reading.bytes ⟨value, isCodePoint, []⟩)
      else none)
    (base count value : Nat)
    (body : List Char) :
    (number? inRange isCodePoint
        (digits? base ofByte count value (ended body))).map Reading.parts =
      (Quoted.numberBytes? toBytes?
        (readDigits base ofChar count value body)).map inBytes := by
  rw [digits?_ended alike notQuote]
  rcases readDigits base ofChar count value body with _ | ⟨number, rest⟩
  · rfl
  · rw [Option.map_some, number?, Quoted.numberBytes?, sameBytes]
    cases inRange number <;> rfl

theorem bytes_of_byte (value : Nat) (rest : List UInt8) :
    Reading.bytes ⟨value, false, rest⟩ = [UInt8.ofNat value] := by
  simp [Reading.bytes]

theorem bytes_of_codePoint (c : Char) (rest : List UInt8) :
    Reading.bytes ⟨c.toNat, true, rest⟩ = String.utf8EncodeChar c := by
  unfold Reading.bytes
  split
  · rename_i small
    have below : c.toNat < 128 := by simpa using small
    exact (utf8EncodeChar_of_lt below).symm
  · rw [Char.ofNat_toNat]

theorem byte?_eq (value : Nat) :
    Quoted.byte? value =
      if isByte value then some (Reading.bytes ⟨value, false, []⟩) else none := by
  simp [Quoted.byte?, isByte, bytes_of_byte]

theorem codePointBytes?_eq (value : Nat) :
    Quoted.codePointBytes? value =
      if isScalar value then some (Reading.bytes ⟨value, true, []⟩)
      else none := by
  have sameRange : isScalar value = true ↔ value.isValidChar := by
    simp [isScalar, Nat.isValidChar]
  by_cases valid : value.isValidChar
  · have isNumber : (Char.ofNat value).toNat = value := by
      rw [Char.ofNat, dif_pos valid]
      rfl
    rw [Quoted.codePointBytes?, if_pos valid, if_pos (sameRange.mpr valid),
      ← bytes_of_codePoint _ [], isNumber]
  · rw [Quoted.codePointBytes?, if_neg valid, if_neg (mt sameRange.mp valid)]

theorem lt_of_letterEscape?
    {c d : Char}
    (letter : Quoted.letterEscape? c = some d) :
    d.toNat < 128 := by
  unfold Quoted.letterEscape? at letter
  split at letter <;> cases letter <;> decide

/-- Escapes that start with a character below 128 are read alike. -/
theorem escape?_ended
    {c : Char}
    (small : c.toNat < 128)
    (body : List Char) :
    (escape? c.toUInt8 (ended body)).map Reading.parts =
      (Quoted.escape? c body).map inBytes := by
  have sameByte : ∀ {d : Char}, d.toNat < 128 →
      (c.toUInt8 = d.toUInt8 ↔ c = d) := toUInt8_inj_of_lt small
  have noHexQuote : Text.hexValue? '"' = none := by decide
  unfold escape? Quoted.escape?
  rw [letters_readAlike.small c small]
  cases letter : Quoted.letterEscape? c with
  | some d =>
      have single := utf8EncodeChar_of_lt (lt_of_letterEscape? letter)
      simp only [Option.map_some, Reading.parts, bytes_of_byte, inBytes, single]
      rfl
  | none =>
      simp only [Option.map_none, sameByte (d := 'x') (by decide),
        sameByte (d := 'u') (by decide), sameByte (d := 'U') (by decide)]
      split
      · exact number?_ended hexValue?_readAlike noHexQuote byte?_eq 16 2 0 body
      · split
        · exact number?_ended hexValue?_readAlike noHexQuote codePointBytes?_eq
            16 4 0 body
        · split
          · exact number?_ended hexValue?_readAlike noHexQuote codePointBytes?_eq
              16 8 0 body
          · rw [octalNumber?, readDigits, octalValue?_readAlike.small c small]
            cases Text.octalValue? c with
            | none => rfl
            | some first =>
                simpa using number?_ended octalValue?_readAlike (by decide) byte?_eq
                  8 2 first body

/-- No escape starts with a character from 128 on. -/
theorem escape?_eq_none_of_wide
    {c : Char}
    (wide : 128 ≤ c.toNat)
    (body : List Char) :
    Quoted.escape? c body = none := by
  have noLetter : Quoted.letterEscape? c = none := by
    simpa using letters_readAlike.wideChar c wide
  have notNumber : c ≠ 'x' ∧ c ≠ 'u' ∧ c ≠ 'U' := by
    refine ⟨?_, ?_, ?_⟩ <;> rintro rfl <;> exact absurd wide (by decide)
  rw [Quoted.escape?, noLetter]
  simp only [notNumber, if_false, octalNumber?, readDigits,
    octalValue?_readAlike.wideChar c wide]
  rfl

theorem escape?_eq_none_of_wideByte
    {byte : UInt8}
    (wide : 128 ≤ byte.toNat)
    (bytes : List UInt8) :
    escape? byte bytes = none := by
  have notNumber : byte ≠ 'x'.toUInt8 ∧ byte ≠ 'u'.toUInt8 ∧
      byte ≠ 'U'.toUInt8 := by
    refine ⟨?_, ?_, ?_⟩ <;> rintro rfl <;> exact absurd wide (by decide)
  rw [escape?, letters_readAlike.wideByte byte wide]
  simp only [notNumber, if_false, octalValue?_readAlike.wideByte byte wide]

/-- The first unit of a body, by its first character. -/
theorem unit?_cons (c : Char) (body : List Char) :
    Quoted.unit? (c :: body) =
      if c = '\\' then
        match body with
        | [] => none
        | d :: rest => Quoted.escape? d rest
      else if c = '"' ∨ c = '\n' then none
      else some (String.utf8EncodeChar c, body) := by
  cases body with
  | nil =>
      rw [Quoted.unit?]
      by_cases isBackslash : c = '\\' <;> simp [isBackslash]
  | cons d rest => rw [Quoted.unit?]

/-- A body with a first unit starts with neither a quote nor a line feed, and is
not a single backslash. -/
theorem starts_of_unit?
    {c : Char}
    {body : List Char}
    {unit : List UInt8 × List Char}
    (read : Quoted.unit? (c :: body) = some unit) :
    c ≠ '"' ∧ c ≠ '\n' ∧ (c = '\\' → body ≠ []) := by
  rw [unit?_cons] at read
  refine ⟨?_, ?_, ?_⟩
  · rintro rfl
    simp at read
  · rintro rfl
    simp at read
  · rintro rfl rfl
    simp at read

/-- The first unit of a body that starts with neither a quote nor a line feed is
read alike, if the body is not a single backslash. -/
theorem unit?_ended
    {c : Char}
    {body : List Char}
    (notQuote : c ≠ '"')
    (notNewline : c ≠ '\n')
    (notLone : c = '\\' → body ≠ []) :
    (unit? (ended (c :: body))).map Reading.parts =
      (Quoted.unit? (c :: body)).map inBytes := by
  rw [ended_cons, unit?_cons]
  rcases utf8EncodeChar_cases c with
    ⟨small, encoded⟩ | ⟨wide, first, others, encoded, high⟩
  · have sameByte : ∀ {d : Char}, d.toNat < 128 →
        (c.toUInt8 = d.toUInt8 ↔ c = d) := toUInt8_inj_of_lt small
    have low : ¬128 ≤ c.toUInt8.toNat := by
      rw [toNat_toUInt8_of_lt small]
      exact Nat.not_le.mpr small
    rw [encoded, List.singleton_append]
    unfold unit?
    simp only [sameByte (d := '"') (by decide), sameByte (d := '\\') (by decide),
      ne_eq, notQuote, notNewline, low, if_false, or_self]
    by_cases isBackslash : c = '\\'
    · obtain ⟨d, rest, rfl⟩ := List.exists_cons_of_ne_nil (notLone isBackslash)
      simp only [isBackslash, not_true_eq_false, if_false, if_true, ended_cons]
      rcases utf8EncodeChar_cases d with
        ⟨dSmall, dEncoded⟩ | ⟨dWide, dFirst, dOthers, dEncoded, dHigh⟩
      · rw [dEncoded, List.singleton_append]
        exact escape?_ended dSmall rest
      · rw [dEncoded, List.cons_append, escape?_eq_none_of_wide dWide]
        simp only [escape?_eq_none_of_wideByte dHigh]
        rfl
    · simp only [isBackslash, not_false_eq_true, if_true, if_false,
        Option.map_some, Reading.parts, bytes_of_byte, inBytes]
      rw [toNat_toUInt8_of_lt small]
      rfl
  · have notBackslash : c ≠ '\\' := by
      rintro rfl
      exact absurd wide (by decide)
    have firstNotQuote : first ≠ '"'.toUInt8 := by
      rintro rfl
      exact absurd high (by decide)
    have decoded : Bytewise.encoded (String.utf8EncodeChar c ++ ended body) =
        ⟨c.toNat, true, ended body⟩ := by
      rw [Bytewise.encoded, utf8DecodeChar?_encode]
      simp only
      rw [← String.length_utf8EncodeChar c, List.drop_left]
    rw [encoded, List.cons_append] at decoded ⊢
    unfold unit?
    simp only [firstNotQuote, high, decoded, notBackslash, notQuote, notNewline,
      if_false, if_true, or_self, Option.map_some, Reading.parts,
      bytes_of_codePoint, inBytes]
    rw [← encoded]

/-- The first byte of a body tells a quote and a line feed from the other
characters. -/
theorem exists_ended_cons
    {c : Char}
    (notQuote : c ≠ '"')
    (notNewline : c ≠ '\n')
    (body : List Char) :
    ∃ byte rest, ended (c :: body) = byte :: rest ∧ byte ≠ '"'.toUInt8 ∧
      byte ≠ '\n'.toUInt8 := by
  rw [ended_cons]
  rcases utf8EncodeChar_cases c with
    ⟨small, encoded⟩ | ⟨wide, first, others, encoded, high⟩
  · refine ⟨c.toUInt8, ended body, by rw [encoded, List.singleton_append], ?_, ?_⟩
    · rwa [ne_eq, toUInt8_inj_of_lt small (by decide)]
    · rwa [ne_eq, toUInt8_inj_of_lt small (by decide)]
  · refine ⟨first, others ++ ended body, by rw [encoded, List.cons_append], ?_, ?_⟩
    · rintro rfl
      exact absurd high (by decide)
    · rintro rfl
      exact absurd high (by decide)

/-- A body that starts with neither a quote nor a line feed is read unit by
unit. -/
theorem body?_ended_cons
    {c : Char}
    (notQuote : c ≠ '"')
    (notNewline : c ≠ '\n')
    (body : List Char) :
    body? (ended (c :: body)) =
      (unit? (ended (c :: body))).bind fun reading =>
        (body? reading.rest).map fun parts =>
          (reading.bytes ++ parts.1, parts.2) := by
  obtain ⟨byte, rest, starts, noQuote, noNewline⟩ :=
    exists_ended_cons notQuote notNewline body
  rw [starts, body?, if_neg noQuote, if_neg noNewline]
  split
  · rename_i unread
    rw [unread]
    rfl
  · rename_i reading read
    rw [read]
    rfl

theorem whole?_map
    (first : List UInt8)
    (read : Option (List UInt8 × List UInt8)) :
    whole? (read.map fun parts => (first ++ parts.1, parts.2)) =
      (whole? read).map fun others => first ++ others := by
  rcases read with _ | ⟨value, _ | ⟨byte, rest⟩⟩ <;> rfl

/-- What is read of a body in bytes is what its units stand for. -/
theorem whole?_body?_ended (body : List Char) :
    whole? (body? (ended body)) = Quoted.bytes? body := by
  fun_induction Quoted.bytes? body with
  | case1 =>
      simp [ended, body?, whole?]
  | case2 c body unread =>
      by_cases isQuote : c = '"'
      · -- The quote ends the reading too early.
        subst isQuote
        have starts : ended ('"' :: body) = '"'.toUInt8 :: ended body := rfl
        rw [starts, body?, if_pos rfl]
        obtain ⟨byte, rest, behind⟩ : ∃ byte rest, ended body = byte :: rest :=
          List.exists_cons_of_ne_nil (by simp [ended])
        rw [behind, whole?]
        simp
      · by_cases isNewline : c = '\n'
        · subst isNewline
          have starts : ended ('\n' :: body) = '\n'.toUInt8 :: ended body := rfl
          rw [starts, body?, if_neg (by decide), if_pos rfl, whole?]
          simp
        · rw [body?_ended_cons isQuote isNewline]
          by_cases isLone : c = '\\' ∧ body = []
          · -- The backslash takes the quote for itself, and none is left.
            obtain ⟨rfl, rfl⟩ := isLone
            have taken : unit? (ended ['\\']) = some ⟨'"'.toNat, false, []⟩ := by
              decide
            simp [taken, body?, whole?]
          · have read := unit?_ended isQuote isNewline
              (fun isBackslash empty => isLone ⟨isBackslash, empty⟩)
            rw [unread, Option.map_none, Option.map_eq_none_iff] at read
            rw [read]
            rfl
  | case3 c body first rest unit inductionHypothesis =>
      obtain ⟨notQuote, notNewline, notLone⟩ := starts_of_unit? unit
      have read := unit?_ended notQuote notNewline notLone
      rw [unit, Option.map_some, Option.map_eq_some_iff] at read
      obtain ⟨reading, isRead, sameParts⟩ := read
      obtain ⟨sameBytes, sameRest⟩ := Prod.mk.inj sameParts
      rw [body?_ended_cons notQuote notNewline, isRead, Option.bind_some,
        sameBytes, sameRest, whole?_map, inductionHypothesis]

/-- The bytes that a literal in quotes stands for are those that the units of its
body stand for. -/
theorem unquote_ended (body : List Char) :
    unquote ('"'.toUInt8 :: ended body) = Quoted.bytes? body := by
  rw [unquote, if_pos rfl, whole?_body?_ended]

end Bytewise
end Text
end EnvTags
