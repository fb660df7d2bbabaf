import Mathlib.Data.List.Forall2
import Mathlib.Data.Nat.Digits.Defs
import EnvTags.Proofs.Text.Encoding
import EnvTags.Text.Quoted

/-!
# Ways to spell a string

The body of an interpreted literal spells a string character by character. A
character can be written as it is, with its escape of one letter, with its code
point in four or eight hexadecimal digits, or with an escape of two hexadecimal or
three octal digits for each of its bytes. Whichever way is chosen for each of the
characters, decoding the body gives the string back.
-/

namespace EnvTags
namespace Text
namespace Quoted

/-! ## Numbers -/

/-- The digits below sixteen, by their values. -/
def lowerDigits : List Char :=
  ['0', '1', '2', '3', '4', '5', '6', '7', '8', '9', 'a', 'b', 'c', 'd', 'e', 'f']

/-- The digits below sixteen in the other case. -/
def upperDigits : List Char :=
  ['0', '1', '2', '3', '4', '5', '6', '7', '8', '9', 'A', 'B', 'C', 'D', 'E', 'F']

/-- The digits of either case with a value. -/
def digitsOf (value : Nat) : List Char :=
  lowerDigits[value]?.toList ++ upperDigits[value]?.toList

/-- A digit has a value. -/
def IsDigit (digit : Char) (value : Nat) : Prop :=
  digit ∈ digitsOf value

theorem IsDigit.mem
    {digit : Char}
    {value : Nat}
    (isDigit : IsDigit digit value) :
    digit ∈ lowerDigits ++ upperDigits := by
  rw [List.mem_append]
  rcases List.mem_append.mp isDigit with inLower | inUpper
  · exact .inl (List.mem_of_getElem? (Option.mem_toList.mp inLower))
  · exact .inr (List.mem_of_getElem? (Option.mem_toList.mp inUpper))

/-- Digits write a number to a base. The first digit counts the most. -/
def Writes (base : Nat) (digits : List Char) (number : Nat) : Prop :=
  ∃ values : List Nat, List.Forall₂ IsDigit digits values ∧
    (∀ value ∈ values, value < base) ∧
    Nat.ofDigits base values.reverse = number

/-- Each digit moves the number read so far up by one place. -/
theorem readDigits_of_forall₂
    {base : Nat}
    {digit? : Char → Option Nat}
    (reads : ∀ {digit value}, IsDigit digit value → value < base →
      digit? digit = some value)
    {digits : List Char}
    {values : List Nat}
    (areDigits : List.Forall₂ IsDigit digits values)
    (small : ∀ value ∈ values, value < base)
    (start : Nat)
    (rest : List Char) :
    readDigits base digit? digits.length start (digits ++ rest) =
      some (start * base ^ digits.length + Nat.ofDigits base values.reverse,
        rest) := by
  induction areDigits generalizing start with
  | nil => simp [readDigits]
  | @cons digit value digits values isDigit areDigits inductionHypothesis =>
      obtain ⟨valueSmall, others⟩ := List.forall_mem_cons.mp small
      rw [List.length_cons, List.cons_append, readDigits, reads isDigit valueSmall]
      simp only
      rw [inductionHypothesis others, List.reverse_cons, Nat.ofDigits_append,
        Nat.ofDigits_singleton, List.length_reverse, areDigits.length_eq]
      congr 2
      ring

/-- A number that is written in digits is read as that number. -/
theorem readDigits_of_writes
    {base : Nat}
    {digit? : Char → Option Nat}
    (reads : ∀ {digit value}, IsDigit digit value → value < base →
      digit? digit = some value)
    {digits : List Char}
    {number : Nat}
    (writes : Writes base digits number)
    (rest : List Char) :
    readDigits base digit? digits.length 0 (digits ++ rest) =
      some (number, rest) := by
  obtain ⟨values, areDigits, small, rfl⟩ := writes
  rw [readDigits_of_forall₂ reads areDigits small, Nat.zero_mul, Nat.zero_add]

theorem hexValue?_of_isDigit
    {digit : Char}
    {value : Nat}
    (isDigit : IsDigit digit value)
    (small : value < 16) :
    hexValue? digit = some value := by
  have all : ∀ value < 16, (digitsOf value).Forall fun digit =>
      hexValue? digit = some value := by decide
  exact List.forall_iff_forall_mem.mp (all value small) digit isDigit

theorem octalValue?_of_isDigit
    {digit : Char}
    {value : Nat}
    (isDigit : IsDigit digit value)
    (small : value < 8) :
    octalValue? digit = some value := by
  have all : ∀ value < 8, (digitsOf value).Forall fun digit =>
      octalValue? digit = some value := by decide
  exact List.forall_iff_forall_mem.mp (all value small) digit isDigit

/-- What a reader of digits takes for one is a digit, if that holds below 128 and
it takes nothing from there on. -/
theorem isDigit_of_lt
    {base : Nat}
    {digit? : Char → Option Nat}
    (small : ∀ number < 128, (digit? (Char.ofNat number)).toList.Forall
      fun value => Char.ofNat number ∈ digitsOf value ∧ value < base)
    (wide : ∀ c : Char, 128 ≤ c.toNat → digit? c = none)
    {digit : Char}
    {value : Nat}
    (read : digit? digit = some value) :
    IsDigit digit value ∧ value < base := by
  have isSmall : digit.toNat < 128 := by
    by_contra isWide
    cases read.symm.trans (wide digit (Nat.le_of_not_lt isWide))
  have atDigit := List.forall_iff_forall_mem.mp (small digit.toNat isSmall) value
  rw [Char.ofNat_toNat, read] at atDigit
  exact atDigit (List.mem_singleton_self value)

theorem isDigit_of_hexValue?
    {digit : Char}
    {value : Nat}
    (read : hexValue? digit = some value) :
    IsDigit digit value ∧ value < 16 := by
  refine isDigit_of_lt (by decide) ?_ read
  intro c wide
  have above9 : ¬c ≤ '9' := not_le_of_wideChar wide (by decide)
  have aboveF : ¬c ≤ 'F' := not_le_of_wideChar wide (by decide)
  have abovef : ¬c ≤ 'f' := not_le_of_wideChar wide (by decide)
  simp [hexValue?, above9, aboveF, abovef]

theorem isDigit_of_octalValue?
    {digit : Char}
    {value : Nat}
    (read : octalValue? digit = some value) :
    IsDigit digit value ∧ value < 8 := by
  refine isDigit_of_lt (by decide) ?_ read
  intro c wide
  have above : ¬c ≤ '7' := not_le_of_wideChar wide (by decide)
  simp [octalValue?, above]

/-- Digits that are read stand in front of what is left, and move the number up
by one place each. -/
theorem exists_digits_of_readDigits
    {base : Nat}
    {digit? : Char → Option Nat}
    (isDigit : ∀ {digit value}, digit? digit = some value →
      IsDigit digit value ∧ value < base)
    {count start number : Nat}
    {text rest : List Char}
    (read : readDigits base digit? count start text = some (number, rest)) :
    ∃ digits values, text = digits ++ rest ∧ digits.length = count ∧
      List.Forall₂ IsDigit digits values ∧ (∀ value ∈ values, value < base) ∧
      number = start * base ^ count + Nat.ofDigits base values.reverse := by
  induction count generalizing start text with
  | zero =>
      obtain ⟨rfl, rfl⟩ := Prod.mk.inj (Option.some.inj read)
      exact ⟨[], [], rfl, rfl, .nil, by simp, by simp⟩
  | succ count inductionHypothesis =>
      cases text with
      | nil => cases read
      | cons digit text =>
          rw [readDigits] at read
          split at read
          · cases read
          · rename_i value isValue
            obtain ⟨digits, values, rfl, length, areDigits, small, rfl⟩ :=
              inductionHypothesis read
            obtain ⟨isFirst, firstSmall⟩ := isDigit isValue
            refine ⟨digit :: digits, value :: values, rfl, by simp [length],
              .cons isFirst areDigits,
              List.forall_mem_cons.mpr ⟨firstSmall, small⟩, ?_⟩
            rw [List.reverse_cons, Nat.ofDigits_append, Nat.ofDigits_singleton,
              List.length_reverse, ← areDigits.length_eq, length]
            ring

/-- A number that is read is written in the digits in front. -/
theorem exists_writes_of_readDigits
    {base : Nat}
    {digit? : Char → Option Nat}
    (isDigit : ∀ {digit value}, digit? digit = some value →
      IsDigit digit value ∧ value < base)
    {count number : Nat}
    {text rest : List Char}
    (read : readDigits base digit? count 0 text = some (number, rest)) :
    ∃ digits, text = digits ++ rest ∧ digits.length = count ∧
      Writes base digits number := by
  obtain ⟨digits, values, isText, length, areDigits, small, isNumber⟩ :=
    exists_digits_of_readDigits isDigit read
  refine ⟨digits, isText, length, values, areDigits, small, ?_⟩
  rw [isNumber, Nat.zero_mul, Nat.zero_add]

theorem hexNumber?_of_writes
    {digits : List Char}
    {number : Nat}
    (writes : Writes 16 digits number)
    (rest : List Char) :
    hexNumber? digits.length (digits ++ rest) = some (number, rest) :=
  readDigits_of_writes hexValue?_of_isDigit writes rest

theorem octalNumber?_of_writes
    {digits : List Char}
    {number : Nat}
    (writes : Writes 8 digits number)
    (rest : List Char) :
    octalNumber? digits.length (digits ++ rest) = some (number, rest) :=
  readDigits_of_writes octalValue?_of_isDigit writes rest

/-! ## Spellings -/

/-- The escapes of one letter, with the characters that they stand for. -/
def letterEscapes : List (Char × Char) :=
  [('a', '\x07'), ('b', '\x08'), ('f', '\x0c'), ('n', '\n'), ('r', '\r'),
   ('t', '\t'), ('v', '\x0b'), ('\\', '\\'), ('"', '"')]

/-- An escape for one byte. -/
inductive SpellsByte : List Char → UInt8 → Prop
  /-- Two hexadecimal digits. -/
  | hexadecimal
      {digits : List Char}
      {byte : UInt8}
      (two : digits.length = 2)
      (writes : Writes 16 digits byte.toNat) :
      SpellsByte ('\\' :: 'x' :: digits) byte
  /-- Three octal digits. -/
  | octal
      {digits : List Char}
      {byte : UInt8}
      (three : digits.length = 3)
      (writes : Writes 8 digits byte.toNat) :
      SpellsByte ('\\' :: digits) byte

/-- A way to write one character. -/
inductive SpellsChar : List Char → Char → Prop
  /-- The character itself. -/
  | itself
      {c : Char}
      (notQuote : c ≠ '"')
      (notBackslash : c ≠ '\\')
      (notLineFeed : c ≠ '\n') :
      SpellsChar [c] c
  /-- Its escape of one letter. -/
  | letter
      {letter c : Char}
      (isEscape : (letter, c) ∈ letterEscapes) :
      SpellsChar ['\\', letter] c
  /-- Its code point in four hexadecimal digits. -/
  | fourDigits
      {digits : List Char}
      {c : Char}
      (four : digits.length = 4)
      (writes : Writes 16 digits c.toNat) :
      SpellsChar ('\\' :: 'u' :: digits) c
  /-- Its code point in eight hexadecimal digits. -/
  | eightDigits
      {digits : List Char}
      {c : Char}
      (eight : digits.length = 8)
      (writes : Writes 16 digits c.toNat) :
      SpellsChar ('\\' :: 'U' :: digits) c
  /-- An escape for each of its bytes. -/
  | bytes
      {escapes : List (List Char)}
      {c : Char}
      (spelled : List.Forall₂ SpellsByte escapes (String.utf8EncodeChar c)) :
      SpellsChar escapes.flatten c

/-- A body spells a text character by character. -/
def Spells (body text : List Char) : Prop :=
  ∃ pieces, List.Forall₂ SpellsChar pieces text ∧ body = pieces.flatten

theorem Spells.append
    {leftBody rightBody left right : List Char}
    (leftSpells : Spells leftBody left)
    (rightSpells : Spells rightBody right) :
    Spells (leftBody ++ rightBody) (left ++ right) := by
  obtain ⟨leftPieces, leftSpelled, rfl⟩ := leftSpells
  obtain ⟨rightPieces, rightSpelled, rfl⟩ := rightSpells
  exact ⟨leftPieces ++ rightPieces, List.rel_append leftSpelled rightSpelled,
    List.flatten_append.symm⟩

theorem SpellsChar.spells
    {piece : List Char}
    {c : Char}
    (spells : SpellsChar piece c) :
    Spells piece [c] :=
  ⟨[piece], .cons spells .nil, by simp⟩

/-- A text without quotes, backslashes and line feeds spells itself. -/
theorem spells_self
    (text : List Char)
    (plain : ∀ c ∈ text, c ≠ '"' ∧ c ≠ '\\' ∧ c ≠ '\n') :
    Spells text text := by
  induction text with
  | nil => exact ⟨[], .nil, rfl⟩
  | cons c text inductionHypothesis =>
      obtain ⟨⟨notQuote, notBackslash, notLineFeed⟩, others⟩ :=
        List.forall_mem_cons.mp plain
      exact (SpellsChar.itself notQuote notBackslash notLineFeed).spells.append
        (inductionHypothesis others)

/-! ## Decoding -/

/-- The first unit of a body is decoded before the others. -/
theorem bytes?_of_unit?
    {body rest : List Char}
    {first : List UInt8}
    (unit : unit? body = some (first, rest)) :
    bytes? body = (bytes? rest).map fun others => first ++ others := by
  cases body with
  | nil => cases unit
  | cons c text =>
      rw [bytes?]
      split
      · rename_i unread
        cases unread.symm.trans unit
      · rename_i other left read
        obtain ⟨rfl, rfl⟩ := Prod.mk.inj (Option.some.inj (read.symm.trans unit))
        rfl

/-- An octal digit starts no other escape. -/
theorem escape?_of_isDigit
    {digit : Char}
    {value : Nat}
    (isDigit : IsDigit digit value)
    (small : value < 8)
    (rest : List Char) :
    escape? digit rest = numberBytes? byte? (octalNumber? 3 (digit :: rest)) := by
  have all : ∀ value < 8, (digitsOf value).Forall fun digit =>
      letterEscape? digit = none ∧ digit ≠ 'x' ∧ digit ≠ 'u' ∧ digit ≠ 'U' := by
    decide
  obtain ⟨noLetter, notX, notSmallU, notU⟩ :=
    List.forall_iff_forall_mem.mp (all value small) digit isDigit
  rw [escape?, noLetter]
  simp only [notX, notSmallU, notU, if_false]

theorem unit?_of_spellsByte
    {piece : List Char}
    {byte : UInt8}
    (spells : SpellsByte piece byte)
    (rest : List Char) :
    unit? (piece ++ rest) = some ([byte], rest) := by
  have isByte : byte? byte.toNat = some [byte] := by
    rw [byte?, if_pos byte.toNat_lt, UInt8.ofNat_toNat]
  cases spells with
  | @hexadecimal digits byte two writes =>
      have number := hexNumber?_of_writes writes rest
      rw [two] at number
      change escape? 'x' (digits ++ rest) = _
      rw [escape?]
      simp [letterEscape?, number, numberBytes?, isByte]
  | @octal digits byte three writes =>
      have number := octalNumber?_of_writes writes rest
      rw [three] at number
      obtain ⟨values, areDigits, small, -⟩ := writes
      cases areDigits with
      | nil => cases three
      | @cons digit value digits values isDigit areDigits =>
          change escape? digit (digits ++ rest) = _
          rw [List.cons_append] at number
          rw [escape?_of_isDigit isDigit (small value List.mem_cons_self), number,
            numberBytes?, isByte]
          rfl

/-- Escapes for bytes are decoded one after the other. -/
theorem bytes?_of_spellsByte
    {escapes : List (List Char)}
    {bytes : List UInt8}
    (spelled : List.Forall₂ SpellsByte escapes bytes)
    (rest : List Char) :
    bytes? (escapes.flatten ++ rest) =
      (bytes? rest).map fun others => bytes ++ others := by
  induction spelled with
  | nil => simp
  | @cons piece byte escapes bytes spells spelled inductionHypothesis =>
      rw [List.flatten_cons, List.append_assoc,
        bytes?_of_unit? (unit?_of_spellsByte spells _), inductionHypothesis,
        Option.map_map]
      rfl

theorem codePointBytes?_toNat (c : Char) :
    codePointBytes? c.toNat = some (String.utf8EncodeChar c) := by
  have valid : c.toNat.isValidChar := c.valid
  rw [codePointBytes?, if_pos valid, Char.ofNat_toNat]

/-- A character is decoded to its bytes whichever way it is written. -/
theorem bytes?_of_spellsChar
    {piece : List Char}
    {c : Char}
    (spells : SpellsChar piece c)
    (rest : List Char) :
    bytes? (piece ++ rest) =
      (bytes? rest).map fun others => String.utf8EncodeChar c ++ others := by
  cases spells with
  | itself notQuote notBackslash notLineFeed =>
      apply bytes?_of_unit?
      cases rest <;> simp [unit?, notQuote, notBackslash, notLineFeed]
  | @letter letter c isEscape =>
      have escapes : ∀ escape ∈ letterEscapes,
          letterEscape? escape.1 = some escape.2 := by decide
      apply bytes?_of_unit?
      change escape? letter rest = _
      rw [escape?, escapes _ isEscape]
  | @fourDigits digits c four writes =>
      have number := hexNumber?_of_writes writes rest
      rw [four] at number
      apply bytes?_of_unit?
      change escape? 'u' (digits ++ rest) = _
      rw [escape?]
      simp [letterEscape?, number, numberBytes?, codePointBytes?_toNat]
  | @eightDigits digits c eight writes =>
      have number := hexNumber?_of_writes writes rest
      rw [eight] at number
      apply bytes?_of_unit?
      change escape? 'U' (digits ++ rest) = _
      rw [escape?]
      simp [letterEscape?, number, numberBytes?, codePointBytes?_toNat]
  | bytes spelled => exact bytes?_of_spellsByte spelled rest

/-- The units of a body stand for the bytes of the text that it spells. -/
theorem bytes?_of_spells
    {body text : List Char}
    (spells : Spells body text) :
    bytes? body = some (encode text) := by
  obtain ⟨pieces, spelled, rfl⟩ := spells
  induction spelled with
  | nil => simp [bytes?]
  | @cons piece c pieces text spells spelled inductionHypothesis =>
      rw [List.flatten_cons, bytes?_of_spellsChar spells, inductionHypothesis]
      rfl

/-- A body is decoded to the text that it spells. -/
theorem decode_of_spells
    {body text : List Char}
    (spells : Spells body text) :
    decode body = some (String.ofList text) := by
  have sameBytes : (⟨(encode text).toArray⟩ : ByteArray) =
      (String.ofList text).toByteArray := by
    rw [← bytes_ofList]
    rfl
  rw [decode, bytes?_of_spells spells]
  simp only
  rw [sameBytes, String.fromUTF8?, dif_pos (String.isValidUTF8 _)]
  rfl

end Quoted
end Text
end EnvTags
