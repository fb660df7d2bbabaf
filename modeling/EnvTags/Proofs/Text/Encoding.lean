import Mathlib.Data.List.Basic
import Mathlib.Data.String.Basic

/-!
# Characters as bytes

A character below 128 is encoded as the one byte with its number. All bytes of
another character are 128 or more. So a test that tells apart bytes below 128
only can be made byte by byte: it holds of all bytes of a character or of none.
-/

namespace EnvTags
namespace Text

/-- The bytes of a string. -/
def bytes (text : String) : List UInt8 :=
  text.toUTF8.data.toList

/-- The bytes of some characters. -/
def encode (text : List Char) : List UInt8 :=
  text.flatMap String.utf8EncodeChar

@[simp] theorem encode_nil : encode [] = [] := rfl

@[simp] theorem encode_cons (c : Char) (text : List Char) :
    encode (c :: text) = String.utf8EncodeChar c ++ encode text := rfl

@[simp] theorem encode_append (left right : List Char) :
    encode (left ++ right) = encode left ++ encode right := by
  simp [encode]

theorem bytes_eq_encode (text : String) : bytes text = encode text.toList := by
  rw [bytes, String.toUTF8_eq_toByteArray, ← String.utf8Encode_toList, encode]
  simp [List.utf8Encode]

theorem bytes_ofList (text : List Char) :
    bytes (String.ofList text) = encode text := by
  rw [bytes_eq_encode, String.toList_ofList]

/-- Texts with the same bytes are the same. -/
theorem encode_injective : Function.Injective encode := by
  intro left right same
  rw [← bytes_ofList, ← bytes_ofList] at same
  have sameData : (String.ofList left).toUTF8 = (String.ofList right).toUTF8 :=
    ByteArray.ext (Array.toList_inj.mp same)
  exact String.ofList_injective (String.toByteArray_inj.mp sameData)

/-- The bytes that a string is read from are its bytes. -/
theorem encode_of_fromUTF8?
    {bytes : List UInt8}
    {text : String}
    (read : String.fromUTF8? ⟨bytes.toArray⟩ = some text) :
    encode text.toList = bytes := by
  unfold String.fromUTF8? at read
  split at read
  · obtain rfl := Option.some.inj read
    rw [← bytes_eq_encode]
    rfl
  · cases read

/-! ## Single characters -/

/-- A character below 128 is one byte. -/
theorem utf8EncodeChar_of_lt
    {c : Char}
    (small : c.toNat < 128) :
    String.utf8EncodeChar c = [c.toUInt8] := by
  apply String.utf8EncodeChar_eq_singleton
  rw [Char.utf8Size_eq_one_iff, UInt32.le_iff_toNat_le]
  exact Nat.le_of_lt_succ small

theorem toNat_toUInt8_of_lt
    {c : Char}
    (small : c.toNat < 128) :
    c.toUInt8.toNat = c.toNat := by
  have smallValue : c.val.toNat < 256 := Nat.lt_trans small (by decide)
  exact Nat.mod_eq_of_lt smallValue

/-- Characters below 128 with the same byte are the same. -/
theorem toUInt8_inj_of_lt
    {c d : Char}
    (cSmall : c.toNat < 128)
    (dSmall : d.toNat < 128) :
    c.toUInt8 = d.toUInt8 ↔ c = d := by
  rw [← UInt8.toNat_inj, toNat_toUInt8_of_lt cSmall, toNat_toUInt8_of_lt dSmall,
    Char.toNat_inj]

theorem not_le_of_wideChar
    {c bound : Char}
    (wide : 128 ≤ c.toNat)
    (small : bound.toNat < 128) :
    ¬c ≤ bound := by
  rw [Char.le_def, UInt32.le_iff_toNat_le]
  exact Nat.not_le.mpr (Nat.lt_of_lt_of_le small wide)

/-- The bytes of a character from 128 on are themselves from 128 on. -/
theorem le_of_mem_utf8EncodeChar
    {c : Char}
    (wide : 128 ≤ c.toNat)
    {byte : UInt8}
    (inside : byte ∈ String.utf8EncodeChar c) :
    128 ≤ byte.toNat := by
  have high : ∀ {value : Nat}, 128 ≤ value → value < 256 →
      128 ≤ (UInt8.ofNat value).toNat := by
    intro value lower upper
    rwa [UInt8.toNat_ofNat_of_lt' upper]
  have wideValue : 128 ≤ c.val.toNat := wide
  unfold String.utf8EncodeChar at inside
  simp only at inside
  split at inside
  · omega
  · split at inside
    · simp only [List.mem_cons, List.not_mem_nil, or_false] at inside
      rcases inside with rfl | rfl <;> exact high (by omega) (by omega)
    · split at inside
      · simp only [List.mem_cons, List.not_mem_nil, or_false] at inside
        rcases inside with rfl | rfl | rfl <;> exact high (by omega) (by omega)
      · simp only [List.mem_cons, List.not_mem_nil, or_false] at inside
        rcases inside with rfl | rfl | rfl | rfl <;>
          exact high (by omega) (by omega)

/-- A character is one byte below 128, or starts with a byte from 128 on. -/
theorem utf8EncodeChar_cases (c : Char) :
    (c.toNat < 128 ∧ String.utf8EncodeChar c = [c.toUInt8]) ∨
      (128 ≤ c.toNat ∧ ∃ first others,
        String.utf8EncodeChar c = first :: others ∧ 128 ≤ first.toNat) := by
  by_cases small : c.toNat < 128
  · exact .inl ⟨small, utf8EncodeChar_of_lt small⟩
  · have wide : 128 ≤ c.toNat := Nat.le_of_not_lt small
    obtain ⟨first, others, encoded⟩ :=
      List.exists_cons_of_ne_nil (String.utf8EncodeChar_ne_nil (c := c))
    exact .inr ⟨wide, first, others, encoded,
      le_of_mem_utf8EncodeChar wide (by simp [encoded])⟩

/-- The first character of a text can be read back from the bytes. -/
theorem utf8DecodeChar?_encode
    (c : Char)
    (others : List UInt8) :
    ByteArray.utf8DecodeChar?
      ⟨(String.utf8EncodeChar c ++ others).toArray⟩ 0 = some c := by
  have split : (⟨(String.utf8EncodeChar c ++ others).toArray⟩ : ByteArray) =
      (String.utf8EncodeChar c).toByteArray ++ others.toByteArray := by
    apply ByteArray.ext
    simp
  rw [split, ByteArray.utf8DecodeChar?_utf8EncodeChar_append]

/-- The first character and the rest of a text are told apart by the bytes. -/
theorem utf8EncodeChar_append_inj
    {c d : Char}
    {left right : List UInt8}
    (same : String.utf8EncodeChar c ++ left = String.utf8EncodeChar d ++ right) :
    c = d ∧ left = right := by
  have sameChar := utf8DecodeChar?_encode c left
  rw [same, utf8DecodeChar?_encode] at sameChar
  obtain rfl := Option.some.inj sameChar
  exact ⟨rfl, List.append_cancel_left same⟩

/-- Of the bytes of a character, the first one can start a character, and no other
one can. -/
theorem exists_utf8EncodeChar_eq_cons (c : Char) :
    ∃ first others, String.utf8EncodeChar c = first :: others ∧
      first.IsUTF8FirstByte ∧ ∀ byte ∈ others, ¬byte.IsUTF8FirstByte := by
  have atIndex : ∀ (index : Nat) (bound : index < (String.utf8EncodeChar c).length),
      (String.utf8EncodeChar c)[index].IsUTF8FirstByte ↔ index = 0 :=
    fun _ _ => UInt8.isUTF8FirstByte_getElem_utf8EncodeChar
  obtain ⟨first, others, encoded⟩ :=
    List.exists_cons_of_ne_nil (String.utf8EncodeChar_ne_nil (c := c))
  simp only [encoded] at atIndex
  refine ⟨first, others, encoded, (atIndex 0 (by simp)).mpr rfl, ?_⟩
  intro byte inside
  obtain ⟨index, bound, rfl⟩ := List.getElem_of_mem inside
  exact mt (atIndex (index + 1) (by simpa using bound)).mp (Nat.succ_ne_zero index)

/-! ## Tests -/

/-- A test of bytes gives the same for each byte of a character as a test of
characters for the character. -/
def Agree (ofByte : UInt8 → Bool) (ofChar : Char → Bool) : Prop :=
  ∀ (c : Char), ∀ byte ∈ String.utf8EncodeChar c, ofByte byte = ofChar c

/-- Tests agree if they do below 128 and have one answer from there on. -/
theorem agree_of_lt
    {ofByte : UInt8 → Bool}
    {ofChar : Char → Bool}
    {otherwise : Bool}
    (small : ∀ value < 128,
      ofByte (Char.ofNat value).toUInt8 = ofChar (Char.ofNat value))
    (wideByte : ∀ byte : UInt8, 128 ≤ byte.toNat → ofByte byte = otherwise)
    (wideChar : ∀ c : Char, 128 ≤ c.toNat → ofChar c = otherwise) :
    Agree ofByte ofChar := by
  intro c byte inside
  by_cases low : c.toNat < 128
  · rw [utf8EncodeChar_of_lt low, List.mem_singleton] at inside
    have atNumber := small c.toNat low
    rwa [Char.ofNat_toNat, ← inside] at atNumber
  · have wide : 128 ≤ c.toNat := Nat.le_of_not_lt low
    rw [wideByte byte (le_of_mem_utf8EncodeChar wide inside), wideChar c wide]

/-- Tests that agree hold up to the same place of a text. -/
theorem takeWhile_encode
    {ofByte : UInt8 → Bool}
    {ofChar : Char → Bool}
    (agree : Agree ofByte ofChar)
    (text : List Char) :
    (encode text).takeWhile ofByte = encode (text.takeWhile ofChar) := by
  induction text with
  | nil => rfl
  | cons c text inductionHypothesis =>
      rw [encode_cons, List.takeWhile_cons]
      cases holds : ofChar c with
      | true =>
          have all : ∀ byte ∈ String.utf8EncodeChar c, ofByte byte = true :=
            fun byte inside => (agree c byte inside).trans holds
          rw [List.takeWhile_append_of_pos all, inductionHypothesis]
          rfl
      | false =>
          obtain ⟨first, others, encoded⟩ :=
            List.exists_cons_of_ne_nil (String.utf8EncodeChar_ne_nil (c := c))
          have fails : ofByte first = false :=
            (agree c first (by simp [encoded])).trans holds
          simp [encoded, fails]

end Text
end EnvTags
