import EnvTags.Proofs.Text.Checked

/-!
# Decoded bodies are spellings

A unit of a body gives all bytes of a character, or a single byte. No character
starts with a byte that goes on another one. So behind a single byte that starts a
character there can only be single bytes, up to the end of the character. A body
that is decoded is therefore one of the spellings of the string: the main statement
says that it is decoded to the strings that it spells, and that no number on the
way is too large for a machine word.
-/

namespace EnvTags
namespace Text
namespace Quoted

/-! ## Units -/

/-- A piece of a body gives all bytes of a character or a single byte. -/
inductive SpellsUnit : List Char → List UInt8 → Prop
  /-- A character that is written as a whole. -/
  | whole
      {piece : List Char}
      {c : Char}
      (spells : SpellsChar piece c) :
      SpellsUnit piece (String.utf8EncodeChar c)
  /-- A byte that is written by itself. -/
  | single
      {piece : List Char}
      {byte : UInt8}
      (spells : SpellsByte piece byte) :
      SpellsUnit piece [byte]

theorem mem_letterEscapes_of_letterEscape?
    {letter c : Char}
    (escape : letterEscape? letter = some c) :
    (letter, c) ∈ letterEscapes := by
  unfold letterEscape? at escape
  split at escape <;> cases escape <;> decide

/-- An escape by a number is a number of digits, and what the number stands for. -/
theorem exists_writes_of_numberBytes?
    {toBytes? : Nat → Option (List UInt8)}
    {base : Nat}
    {digit? : Char → Option Nat}
    (isDigit : ∀ {digit value}, digit? digit = some value →
      IsDigit digit value ∧ value < base)
    {count : Nat}
    {text rest : List Char}
    {bytes : List UInt8}
    (read : numberBytes? toBytes? (readDigits base digit? count 0 text) =
      some (bytes, rest)) :
    ∃ digits number, text = digits ++ rest ∧ digits.length = count ∧
      Writes base digits number ∧ toBytes? number = some bytes := by
  unfold numberBytes? at read
  split at read
  · cases read
  · rename_i number left isNumber
    obtain ⟨found, isFound, same⟩ := Option.map_eq_some_iff.mp read
    obtain ⟨rfl, rfl⟩ := Prod.mk.inj same
    obtain ⟨digits, isText, length, writes⟩ :=
      exists_writes_of_readDigits isDigit isNumber
    exact ⟨digits, number, isText, length, writes, isFound⟩

theorem eq_of_byte?
    {number : Nat}
    {bytes : List UInt8}
    (isByte : byte? number = some bytes) :
    ∃ byte : UInt8, bytes = [byte] ∧ byte.toNat = number := by
  unfold byte? at isByte
  split at isByte
  · rename_i small
    obtain rfl := Option.some.inj isByte
    exact ⟨UInt8.ofNat number, rfl, UInt8.toNat_ofNat_of_lt' small⟩
  · cases isByte

theorem eq_of_codePointBytes?
    {number : Nat}
    {bytes : List UInt8}
    (isCodePoint : codePointBytes? number = some bytes) :
    ∃ c : Char, bytes = String.utf8EncodeChar c ∧ c.toNat = number := by
  unfold codePointBytes? at isCodePoint
  split at isCodePoint
  · rename_i valid
    obtain rfl := Option.some.inj isCodePoint
    exact ⟨Char.ofNat number, rfl, by rw [Char.ofNat, dif_pos valid]; rfl⟩
  · cases isCodePoint

/-- An escape is read from the piece of the body behind the backslash. -/
theorem exists_piece_of_escape?
    {c : Char}
    {text rest : List Char}
    {bytes : List UInt8}
    (read : escape? c text = some (bytes, rest)) :
    ∃ piece, '\\' :: c :: text = piece ++ rest ∧ SpellsUnit piece bytes := by
  unfold escape? at read
  split at read
  · rename_i d escape
    obtain ⟨rfl, rfl⟩ := Prod.mk.inj (Option.some.inj read)
    exact ⟨['\\', c], rfl,
      .whole (.letter (mem_letterEscapes_of_letterEscape? escape))⟩
  · split at read
    · rename_i isX
      obtain ⟨digits, number, rfl, length, writes, isByte⟩ :=
        exists_writes_of_numberBytes? isDigit_of_hexValue? read
      obtain ⟨byte, rfl, rfl⟩ := eq_of_byte? isByte
      exact ⟨'\\' :: 'x' :: digits, by rw [isX]; rfl,
        .single (.hexadecimal length writes)⟩
    · split at read
      · rename_i isSmallU
        obtain ⟨digits, number, rfl, length, writes, isCodePoint⟩ :=
          exists_writes_of_numberBytes? isDigit_of_hexValue? read
        obtain ⟨d, rfl, rfl⟩ := eq_of_codePointBytes? isCodePoint
        exact ⟨'\\' :: 'u' :: digits, by rw [isSmallU]; rfl,
          .whole (.fourDigits length writes)⟩
      · split at read
        · rename_i isU
          obtain ⟨digits, number, rfl, length, writes, isCodePoint⟩ :=
            exists_writes_of_numberBytes? isDigit_of_hexValue? read
          obtain ⟨d, rfl, rfl⟩ := eq_of_codePointBytes? isCodePoint
          exact ⟨'\\' :: 'U' :: digits, by rw [isU]; rfl,
            .whole (.eightDigits length writes)⟩
        · obtain ⟨digits, number, isText, length, writes, isByte⟩ :=
            exists_writes_of_numberBytes? isDigit_of_octalValue? read
          obtain ⟨byte, rfl, rfl⟩ := eq_of_byte? isByte
          exact ⟨'\\' :: digits, by rw [isText]; rfl,
            .single (.octal length writes)⟩

/-- A unit is read from the piece in front of the body. -/
theorem exists_piece_of_unit?
    {body rest : List Char}
    {bytes : List UInt8}
    (read : unit? body = some (bytes, rest)) :
    ∃ piece, body = piece ++ rest ∧ SpellsUnit piece bytes := by
  unfold unit? at read
  split at read
  · cases read
  · split at read
    · cases read
    · rename_i c plain
      obtain ⟨rfl, rfl⟩ := Prod.mk.inj (Option.some.inj read)
      rw [not_or, not_or] at plain
      exact ⟨[c], rfl, .whole (.itself plain.2.1 plain.1 plain.2.2)⟩
  · split at read
    · rename_i c d text isBackslash
      subst isBackslash
      exact exists_piece_of_escape? read
    · rename_i c d text notBackslash
      split at read
      · cases read
      · rename_i plain
        obtain ⟨rfl, rfl⟩ := Prod.mk.inj (Option.some.inj read)
        rw [not_or] at plain
        exact ⟨[c], rfl, .whole (.itself plain.1 notBackslash plain.2)⟩

theorem SpellsUnit.ne_nil
    {piece : List Char}
    {bytes : List UInt8}
    (unit : SpellsUnit piece bytes) :
    bytes ≠ [] := by
  cases unit with
  | whole => exact String.utf8EncodeChar_ne_nil
  | single => simp

/-- The bytes of a body are none, or those of its first unit and those of the
rest. -/
theorem eq_nil_or_exists_unit_of_bytes?
    {body : List Char}
    {bytes : List UInt8}
    (read : bytes? body = some bytes) :
    (body = [] ∧ bytes = []) ∨
      ∃ piece first rest others, body = piece ++ rest ∧ SpellsUnit piece first ∧
        bytes? rest = some others ∧ bytes = first ++ others := by
  cases body with
  | nil =>
      rw [bytes?] at read
      exact .inl ⟨rfl, (Option.some.inj read).symm⟩
  | cons c text =>
      rw [bytes?] at read
      split at read
      · cases read
      · rename_i first rest unit
        obtain ⟨others, isRest, same⟩ := Option.map_eq_some_iff.mp read
        obtain ⟨piece, isBody, spells⟩ := exists_piece_of_unit? unit
        exact .inr ⟨piece, first, rest, others, isBody, spells, isRest,
          same.symm⟩

/-! ## Characters -/

/-- Bytes that go on a character are written one by one. -/
theorem exists_escapes_of_bytes?
    {continuing others : List UInt8}
    (goOn : ∀ byte ∈ continuing, ¬byte.IsUTF8FirstByte)
    {body : List Char}
    (read : bytes? body = some (continuing ++ others)) :
    ∃ escapes rest, body = escapes.flatten ++ rest ∧
      List.Forall₂ SpellsByte escapes continuing ∧ bytes? rest = some others := by
  induction continuing generalizing body with
  | nil => exact ⟨[], body, rfl, .nil, read⟩
  | cons byte continuing inductionHypothesis =>
      obtain ⟨goesOn, laterGoOn⟩ := List.forall_mem_cons.mp goOn
      obtain ⟨-, ⟨⟩⟩ | ⟨piece, first, rest, behind, rfl, unit, isRest, same⟩ :=
        eq_nil_or_exists_unit_of_bytes? read
      cases unit with
      | @whole c spells =>
          obtain ⟨start, more, encoded, starts, -⟩ :=
            exists_utf8EncodeChar_eq_cons c
          rw [encoded, List.cons_append] at same
          exact absurd ((List.cons.inj same).1 ▸ starts) goesOn
      | @single other spells =>
          obtain ⟨rfl, rfl⟩ := List.cons.inj same
          obtain ⟨escapes, last, rfl, spelled, isLast⟩ :=
            inductionHypothesis laterGoOn isRest
          exact ⟨piece :: escapes, last, by simp, .cons spells spelled, isLast⟩

/-- The bytes of a text are read from its spellings only. -/
theorem spells_of_bytes?
    {body text : List Char}
    (read : bytes? body = some (encode text)) :
    Spells body text := by
  induction text generalizing body with
  | nil =>
      obtain ⟨rfl, -⟩ | ⟨_, first, _, _, -, unit, -, same⟩ :=
        eq_nil_or_exists_unit_of_bytes? read
      · exact ⟨[], .nil, rfl⟩
      · exact absurd (List.append_eq_nil_iff.mp same.symm).1 unit.ne_nil
  | cons c text inductionHypothesis =>
      obtain ⟨start, continuing, encoded, -, goOn⟩ :=
        exists_utf8EncodeChar_eq_cons c
      rw [encode_cons, encoded, List.cons_append] at read
      obtain ⟨-, ⟨⟩⟩ | ⟨piece, first, rest, behind, rfl, unit, isRest, same⟩ :=
        eq_nil_or_exists_unit_of_bytes? read
      cases unit with
      | @whole d spells =>
          rw [← List.cons_append, ← encoded] at same
          obtain ⟨rfl, rfl⟩ := utf8EncodeChar_append_inj same
          exact spells.spells.append (inductionHypothesis isRest)
      | @single byte spells =>
          obtain ⟨rfl, rfl⟩ := List.cons.inj same
          obtain ⟨escapes, last, rfl, spelled, isLast⟩ :=
            exists_escapes_of_bytes? goOn isRest
          have isChar : SpellsChar (piece :: escapes).flatten c :=
            .bytes (encoded ▸ .cons spells spelled)
          rw [← List.append_assoc, ← List.flatten_cons]
          exact isChar.spells.append (inductionHypothesis isLast)

/-- A body spells the text that it is decoded to. -/
theorem spells_of_decode
    {body : List Char}
    {text : String}
    (decoded : decode body = some text) :
    Spells body text.toList := by
  unfold decode at decoded
  split at decoded
  · cases decoded
  · rename_i bytes read
    rw [← encode_of_fromUTF8? decoded] at read
    exact spells_of_bytes? read

/-- A body is decoded to the texts that it spells, and to no other ones. Whatever
the body is, no number on the way is too large for a machine word. -/
theorem decode_eq_some_iff_spells (body : List Char) :
    (∀ text, decode body = some text ↔ Spells body text.toList) ∧
      Checked.decode body = .ok (decode body) := by
  refine ⟨fun text => ⟨?_, ?_⟩, Checked.decode_eq body⟩
  · intro decoded
    unfold decode at decoded
    cases read : bytes? body with
    | none => simp [read] at decoded
    | some bytes =>
        rw [read] at decoded
        rw [← encode_of_fromUTF8? decoded] at read
        exact spells_of_bytes? read
  · intro spells
    rw [decode_of_spells spells, String.ofList_toList]

end Quoted
end Text
end EnvTags
