import EnvTags.Text.Chunk
import EnvTags.Text.Shown

/-!
# Names of entries

The name of an entry is a row of bytes. Most of them are texts; the others are read
as texts where one is wanted, and different ones may be read alike. Names are equal
when their bytes are, and are ordered byte by byte.
-/

namespace EnvTags

/-- A name of an entry. -/
inductive Name
  /-- A text. -/
  | text (characters : String)
  /-- Bytes that are not valid UTF-8. -/
  | bytes (raw : List UInt8) (isNoText : String.fromUTF8? ⟨raw.toArray⟩ = none)
  deriving DecidableEq

namespace Name

instance : Coe String Name := ⟨text⟩

/-- A row of texts is a row of names. -/
instance : Coe (List String) (List Name) := ⟨List.map text⟩

/-- The text that a name is, if it is one. -/
def text? : Name → Option String
  | text characters => some characters
  | bytes _ _ => none

/-- A name as it is read where a text is wanted. -/
def read : Name → String
  | text characters => characters
  | bytes raw _ => Text.readBytes raw

@[simp] theorem read_text (characters : String) :
    (text characters).read = characters := rfl

/-- The bytes of a name. -/
def row : Name → List UInt8
  | text characters => characters.toUTF8.data.toList
  | bytes raw _ => raw

/-- A name as it is shown between quotes. Bytes that are no character are given by
their numbers. -/
def shown : Name → List Char
  | text characters => characters.toList.flatMap Text.showChar
  | bytes raw _ => (Text.chunks raw).flatMap Text.showChunk

instance : LT Name := ⟨fun left right => left.row < right.row⟩

instance : LE Name := ⟨fun left right => left.row ≤ right.row⟩

instance (left right : Name) : Decidable (left < right) :=
  inferInstanceAs (Decidable (left.row < right.row))

end Name
end EnvTags
