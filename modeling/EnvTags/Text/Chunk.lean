/-!
# Bytes that are read as a text

Bytes are read as UTF-8, one after the other. A character that is begun and not
completed is broken, and so is a byte that begins none. Where a text is wanted, a
replacement character stands for each broken part.
-/

namespace EnvTags
namespace Text

/-- What some bytes are read as. -/
inductive Chunk
  /-- A character. -/
  | char (c : Char)
  /-- Bytes that are no character. -/
  | broken (bytes : List UInt8)
  deriving DecidableEq

/-- The character that stands for bytes that are none. -/
def replacement : Char := '\uFFFD'

/-- What is read in place of a chunk. -/
def Chunk.read : Chunk → Char
  | char c => c
  | broken _ => replacement

/-- A character of several bytes that is begun. -/
structure Begun where
  /-- The bytes so far. -/
  bytes : List UInt8
  /-- The number that they write. -/
  value : Nat
  /-- How many bytes are missing after the next one. -/
  missing : Nat
  /-- The smallest next byte. -/
  lowest : Nat := 0x80
  /-- The greatest next byte. -/
  highest : Nat := 0xBF

/-- The character that a byte begins. The second byte is bounded where characters
would have a shorter form, be surrogates, or lie behind the last code point. -/
def begin? (byte : UInt8) : Option Begun :=
  let value := byte.toNat
  if 0xC2 ≤ value ∧ value ≤ 0xDF then some ⟨[byte], value - 0xC0, 0, 0x80, 0xBF⟩
  else if value = 0xE0 then some ⟨[byte], 0, 1, 0xA0, 0xBF⟩
  else if value = 0xED then some ⟨[byte], 0xD, 1, 0x80, 0x9F⟩
  else if 0xE1 ≤ value ∧ value ≤ 0xEF then
    some ⟨[byte], value - 0xE0, 1, 0x80, 0xBF⟩
  else if value = 0xF0 then some ⟨[byte], 0, 2, 0x90, 0xBF⟩
  else if value = 0xF4 then some ⟨[byte], 4, 2, 0x80, 0x8F⟩
  else if 0xF1 ≤ value ∧ value ≤ 0xF3 then
    some ⟨[byte], value - 0xF0, 2, 0x80, 0xBF⟩
  else none

/-- The chunks that are complete after a byte, and the character that is begun
then. -/
abbrev Progress := List Chunk × Option Begun

/-- Read a byte where no character is begun. -/
def readFirst (byte : UInt8) : Progress :=
  if byte.toNat < 0x80 then ([.char (Char.ofNat byte.toNat)], none)
  else
    match begin? byte with
    | some begun => ([], some begun)
    | none => ([.broken [byte]], none)

/-- Read a byte after a character has been begun. A byte that does not go on with
it breaks it off and is read afresh. -/
def Begun.readNext (begun : Begun) (byte : UInt8) : Progress :=
  if begun.lowest ≤ byte.toNat ∧ byte.toNat ≤ begun.highest then
    let value := begun.value * 64 + (byte.toNat - 0x80)
    if begun.missing = 0 then ([.char (Char.ofNat value)], none)
    else ([], some ⟨begun.bytes ++ [byte], value, begun.missing - 1, 0x80, 0xBF⟩)
  else (.broken begun.bytes :: (readFirst byte).1, (readFirst byte).2)

/-- The chunks of bytes that follow what has been begun. -/
def chunksFrom : Option Begun → List UInt8 → List Chunk
  | none, [] => []
  | some begun, [] => [.broken begun.bytes]
  | none, byte :: bytes => (readFirst byte).1 ++ chunksFrom (readFirst byte).2 bytes
  | some begun, byte :: bytes =>
      (begun.readNext byte).1 ++ chunksFrom (begun.readNext byte).2 bytes

/-- The chunks of some bytes. -/
def chunks (bytes : List UInt8) : List Chunk :=
  chunksFrom none bytes

/-- What some bytes are read as. -/
def readBytes (bytes : List UInt8) : String :=
  String.ofList ((chunks bytes).map Chunk.read)

end Text
end EnvTags
