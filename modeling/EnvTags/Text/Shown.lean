import EnvTags.Text.Chunk
import EnvTags.Text.Visible

/-!
# Shown texts

Texts are shown between double quotes. Quotes and backslashes are escaped, and so
are the characters that have no shape of their own and the bytes that are no
character.
-/

namespace EnvTags
namespace Text

/-- A number in hexadecimal digits. -/
def hexDigits (value : Nat) : List Char :=
  Nat.toDigits 16 value

/-- A character as it is shown between quotes. -/
def showChar (c : Char) : List Char :=
  if c = '\x00' then ['\\', '0']
  else if c = '\t' then ['\\', 't']
  else if c = '\r' then ['\\', 'r']
  else if c = '\n' then ['\\', 'n']
  else if c = '\'' ∨ c = '"' ∨ c = '\\' then ['\\', c]
  else if isVisible c then [c]
  else ['\\', 'u', '\x7b'] ++ hexDigits c.toNat ++ ['\x7d']

/-- A byte that is no character, as it is shown between quotes. -/
def showByte (byte : UInt8) : List Char :=
  ['\\', 'x'] ++ (hexDigits byte.toNat).map Char.toUpper

/-- What some bytes are read as, as it is shown between quotes. -/
def showChunk : Chunk → List Char
  | .char c => showChar c
  | .broken bytes => bytes.flatMap showByte

end Text
end EnvTags
