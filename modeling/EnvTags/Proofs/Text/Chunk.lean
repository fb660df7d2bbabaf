import EnvTags.Proofs.Text.Encoding
import EnvTags.Text.Chunk

/-!
# Bytes and what they are read as

Reading bytes loses none of them: the bytes of the chunks, one after the other, are
those that were read. A text is read back from its bytes. So bytes that are no text
have a broken chunk, and a replacement character stands in what they are read as.
-/

namespace EnvTags
namespace Text

/-! ## Characters of several bytes -/

theorem toNat_val_ofNat
    {number : Nat}
    (valid : number.isValidChar) :
    (Char.ofNat number).val.toNat = number := by
  rw [Char.ofNat, dif_pos valid]
  exact UInt32.toNat_ofNatLT

theorem ofNat_eq_of_eq
    {number : Nat}
    {byte : UInt8}
    (same : number = byte.toNat) :
    UInt8.ofNat number = byte := by
  rw [same, UInt8.ofNat_toNat]

/-- A byte goes on with a character. -/
def IsTail (byte : UInt8) : Prop :=
  0x80 ≤ byte.toNat ∧ byte.toNat ≤ 0xBF

theorem utf8EncodeChar_of_two
    {first second : UInt8}
    (low : 0xC2 ≤ first.toNat)
    (high : first.toNat ≤ 0xDF)
    (isTail : IsTail second) :
    String.utf8EncodeChar
        (Char.ofNat ((first.toNat - 0xC0) * 64 + (second.toNat - 0x80))) =
      [first, second] := by
  obtain ⟨tailLow, tailHigh⟩ := isTail
  unfold String.utf8EncodeChar
  rw [toNat_val_ofNat (by unfold Nat.isValidChar; omega)]
  dsimp only
  rw [if_neg (by omega), if_pos (by omega), @ofNat_eq_of_eq _ first (by omega),
    @ofNat_eq_of_eq _ second (by omega)]

theorem utf8EncodeChar_of_three
    {first second third : UInt8}
    (low : 0xE0 ≤ first.toNat)
    (high : first.toNat ≤ 0xEF)
    (secondIsTail : IsTail second)
    (thirdIsTail : IsTail third)
    (notShorter : first.toNat = 0xE0 → 0xA0 ≤ second.toNat)
    (notSurrogate : first.toNat = 0xED → second.toNat ≤ 0x9F) :
    String.utf8EncodeChar
        (Char.ofNat (((first.toNat - 0xE0) * 64 + (second.toNat - 0x80)) * 64 +
          (third.toNat - 0x80))) =
      [first, second, third] := by
  obtain ⟨secondLow, secondHigh⟩ := secondIsTail
  obtain ⟨thirdLow, thirdHigh⟩ := thirdIsTail
  unfold String.utf8EncodeChar
  rw [toNat_val_ofNat (by unfold Nat.isValidChar; omega)]
  dsimp only
  rw [if_neg (by omega), if_neg (by omega), if_pos (by omega),
    @ofNat_eq_of_eq _ first (by omega), @ofNat_eq_of_eq _ second (by omega),
    @ofNat_eq_of_eq _ third (by omega)]

theorem utf8EncodeChar_of_four
    {first second third fourth : UInt8}
    (low : 0xF0 ≤ first.toNat)
    (high : first.toNat ≤ 0xF4)
    (secondIsTail : IsTail second)
    (thirdIsTail : IsTail third)
    (fourthIsTail : IsTail fourth)
    (notShorter : first.toNat = 0xF0 → 0x90 ≤ second.toNat)
    (notBeyond : first.toNat = 0xF4 → second.toNat ≤ 0x8F) :
    String.utf8EncodeChar
        (Char.ofNat ((((first.toNat - 0xF0) * 64 + (second.toNat - 0x80)) * 64 +
          (third.toNat - 0x80)) * 64 + (fourth.toNat - 0x80))) =
      [first, second, third, fourth] := by
  obtain ⟨secondLow, secondHigh⟩ := secondIsTail
  obtain ⟨thirdLow, thirdHigh⟩ := thirdIsTail
  obtain ⟨fourthLow, fourthHigh⟩ := fourthIsTail
  unfold String.utf8EncodeChar
  rw [toNat_val_ofNat (by unfold Nat.isValidChar; omega)]
  dsimp only
  rw [if_neg (by omega), if_neg (by omega), if_neg (by omega),
    @ofNat_eq_of_eq _ first (by omega), @ofNat_eq_of_eq _ second (by omega),
    @ofNat_eq_of_eq _ third (by omega), @ofNat_eq_of_eq _ fourth (by omega)]

/-! ## The first byte -/

theorem begin?_of_two
    {byte : UInt8}
    (low : 0xC2 ≤ byte.toNat)
    (high : byte.toNat ≤ 0xDF) :
    begin? byte = some ⟨[byte], byte.toNat - 0xC0, 0, 0x80, 0xBF⟩ := by
  unfold begin?
  dsimp only
  rw [if_pos ⟨low, high⟩]

theorem begin?_of_three
    {byte : UInt8}
    (low : 0xE0 ≤ byte.toNat)
    (high : byte.toNat ≤ 0xEF) :
    begin? byte = some ⟨[byte], byte.toNat - 0xE0, 1,
      if byte.toNat = 0xE0 then 0xA0 else 0x80,
      if byte.toNat = 0xED then 0x9F else 0xBF⟩ := by
  unfold begin?
  dsimp only
  rw [if_neg (by omega)]
  split_ifs with isLow isHigh <;> first | omega | simp_all

theorem begin?_of_four
    {byte : UInt8}
    (low : 0xF0 ≤ byte.toNat)
    (high : byte.toNat ≤ 0xF4) :
    begin? byte = some ⟨[byte], byte.toNat - 0xF0, 2,
      if byte.toNat = 0xF0 then 0x90 else 0x80,
      if byte.toNat = 0xF4 then 0x8F else 0xBF⟩ := by
  unfold begin?
  dsimp only
  rw [if_neg (by omega), if_neg (by omega), if_neg (by omega), if_neg (by omega)]
  split_ifs with isLow isHigh <;> first | omega | simp_all

theorem range_of_begin?
    {byte : UInt8}
    {begun : Begun}
    (isBegun : begin? byte = some begun) :
    (0xC2 ≤ byte.toNat ∧ byte.toNat ≤ 0xDF) ∨
      (0xE0 ≤ byte.toNat ∧ byte.toNat ≤ 0xEF) ∨
      (0xF0 ≤ byte.toNat ∧ byte.toNat ≤ 0xF4) := by
  by_contra outside
  unfold begin? at isBegun
  dsimp only at isBegun
  split_ifs at isBegun <;> omega

/-! ## Bytes are not lost -/

/-- The bytes of a chunk. -/
def Chunk.row : Chunk → List UInt8
  | char c => String.utf8EncodeChar c
  | broken bytes => bytes

/-- The bytes that have been read, followed by as many as are missing, are those of
a character with the number that is reached. -/
def CompletesTo : Nat → List UInt8 → Nat → Nat → Nat → Prop
  | 0, bytes, value, lowest, highest =>
      ∀ byte : UInt8, lowest ≤ byte.toNat → byte.toNat ≤ highest →
        String.utf8EncodeChar (Char.ofNat (value * 64 + (byte.toNat - 0x80))) =
          bytes ++ [byte]
  | missing + 1, bytes, value, lowest, highest =>
      ∀ byte : UInt8, lowest ≤ byte.toNat → byte.toNat ≤ highest →
        CompletesTo missing (bytes ++ [byte])
          (value * 64 + (byte.toNat - 0x80)) 0x80 0xBF

/-- What has been begun becomes a character with the bytes that were read. -/
def Begun.IsSound (begun : Begun) : Prop :=
  CompletesTo begun.missing begun.bytes begun.value begun.lowest begun.highest

theorem completesTo_three
    {first : UInt8}
    (low : 0xE0 ≤ first.toNat)
    (high : first.toNat ≤ 0xEF) :
    CompletesTo 1 [first] (first.toNat - 0xE0)
      (if first.toNat = 0xE0 then 0xA0 else 0x80)
      (if first.toNat = 0xED then 0x9F else 0xBF) := by
  intro second secondLow secondHigh third thirdLow thirdHigh
  refine utf8EncodeChar_of_three low high ⟨?_, ?_⟩ ⟨thirdLow, thirdHigh⟩ ?_ ?_
  all_goals
    split at secondLow <;> split at secondHigh <;> omega

theorem completesTo_four
    {first : UInt8}
    (low : 0xF0 ≤ first.toNat)
    (high : first.toNat ≤ 0xF4) :
    CompletesTo 2 [first] (first.toNat - 0xF0)
      (if first.toNat = 0xF0 then 0x90 else 0x80)
      (if first.toNat = 0xF4 then 0x8F else 0xBF) := by
  intro second secondLow secondHigh third thirdLow thirdHigh fourth fourthLow
    fourthHigh
  refine utf8EncodeChar_of_four low high ⟨?_, ?_⟩ ⟨thirdLow, thirdHigh⟩
    ⟨fourthLow, fourthHigh⟩ ?_ ?_
  all_goals
    split at secondLow <;> split at secondHigh <;> omega

/-- A byte that begins a character is the first one of it. -/
theorem isSound_of_begin?
    {byte : UInt8}
    {begun : Begun}
    (isBegun : begin? byte = some begun) :
    begun.bytes = [byte] ∧ begun.IsSound := by
  rcases range_of_begin? isBegun with ⟨low, high⟩ | ⟨low, high⟩ | ⟨low, high⟩
  · obtain rfl := Option.some.inj ((begin?_of_two low high).symm.trans isBegun)
    refine ⟨rfl, fun second secondLow secondHigh => ?_⟩
    exact utf8EncodeChar_of_two low high ⟨secondLow, secondHigh⟩
  · obtain rfl := Option.some.inj ((begin?_of_three low high).symm.trans isBegun)
    exact ⟨rfl, completesTo_three low high⟩
  · obtain rfl := Option.some.inj ((begin?_of_four low high).symm.trans isBegun)
    exact ⟨rfl, completesTo_four low high⟩

/-- What has been begun may be read on. -/
def Progress.IsSound (progress : Progress) (bytes : List UInt8) : Prop :=
  match progress.2 with
  | none => progress.1.flatMap Chunk.row = bytes
  | some begun =>
      begun.IsSound ∧ progress.1.flatMap Chunk.row ++ begun.bytes = bytes

theorem isSound_readFirst (byte : UInt8) :
    Progress.IsSound (readFirst byte) [byte] := by
  unfold readFirst
  split
  · rename_i small
    have value : (Char.ofNat byte.toNat).val.toNat = byte.toNat :=
      toNat_val_ofNat (by unfold Nat.isValidChar; omega)
    have encoded : String.utf8EncodeChar (Char.ofNat byte.toNat) = [byte] := by
      unfold String.utf8EncodeChar
      rw [value]
      dsimp only
      rw [if_pos (by omega), UInt8.ofNat_toNat]
    simp [Progress.IsSound, Chunk.row, encoded]
  · cases isBegun : begin? byte with
    | none => simp [Progress.IsSound, Chunk.row]
    | some begun =>
        obtain ⟨isFirst, sound⟩ := isSound_of_begin? isBegun
        exact ⟨sound, by simp [isFirst]⟩

theorem isSound_readNext
    {begun : Begun}
    (sound : begun.IsSound)
    (byte : UInt8) :
    Progress.IsSound (begun.readNext byte) (begun.bytes ++ [byte]) := by
  obtain ⟨bytes, value, missing, lowest, highest⟩ := begun
  unfold Begun.readNext
  split
  · rename_i bounds
    cases missing with
    | zero =>
        have completed := sound byte bounds.1 bounds.2
        simpa [Progress.IsSound, Chunk.row] using completed
    | succ missing =>
        exact ⟨sound byte bounds.1 bounds.2, by simp⟩
  · have afresh := isSound_readFirst byte
    unfold Progress.IsSound at afresh ⊢
    cases isBegun : (readFirst byte).2 with
    | none => simpa [isBegun, Chunk.row] using afresh
    | some next => simpa [isBegun, Chunk.row] using afresh

/-- Reading loses no byte. -/
theorem flatMap_row_chunksFrom (bytes : List UInt8) :
    (chunksFrom none bytes).flatMap Chunk.row = bytes ∧
      ∀ begun : Begun, begun.IsSound →
        (chunksFrom (some begun) bytes).flatMap Chunk.row =
          begun.bytes ++ bytes := by
  induction bytes with
  | nil => exact ⟨rfl, fun begun _ => by simp [chunksFrom, Chunk.row]⟩
  | cons byte bytes inductionHypothesis =>
      obtain ⟨fromNone, fromBegun⟩ := inductionHypothesis
      have goesOn : ∀ {progress : Progress} {before : List UInt8},
          progress.IsSound before →
          (progress.1 ++ chunksFrom progress.2 bytes).flatMap Chunk.row =
            before ++ bytes := by
        rintro ⟨complete, _ | begun⟩ before sound
        · simpa [Progress.IsSound, fromNone] using sound
        · obtain ⟨beginsSound, rfl⟩ := sound
          simp [fromBegun begun beginsSound]
      refine ⟨goesOn (isSound_readFirst byte), fun begun sound => ?_⟩
      rw [chunksFrom, goesOn (isSound_readNext sound byte)]
      simp

theorem flatMap_row_chunks (bytes : List UInt8) :
    (chunks bytes).flatMap Chunk.row = bytes :=
  (flatMap_row_chunksFrom bytes).1

/-! ## Texts are read back -/

theorem chunksFrom_of_begin?
    {byte : UInt8}
    {begun : Begun}
    (wide : 0x80 ≤ byte.toNat)
    (isBegun : begin? byte = some begun)
    (bytes : List UInt8) :
    chunksFrom none (byte :: bytes) = chunksFrom (some begun) bytes := by
  rw [chunksFrom, readFirst, if_neg (Nat.not_lt.mpr wide), isBegun]
  rfl

section Begun

variable
  {before : List UInt8}
  {value lowest highest : Nat}
  {byte : UInt8}
  (low : lowest ≤ byte.toNat)
  (high : byte.toNat ≤ highest)
include low high

/-- The last byte of a character completes it. -/
theorem chunksFrom_last
    {c : Char}
    (isChar : c.toNat = value * 64 + (byte.toNat - 0x80))
    (bytes : List UInt8) :
    chunksFrom (some ⟨before, value, 0, lowest, highest⟩) (byte :: bytes) =
      .char c :: chunksFrom none bytes := by
  rw [chunksFrom, Begun.readNext, if_pos ⟨low, high⟩, if_pos rfl, ← isChar,
    Char.ofNat_toNat]
  rfl

/-- A byte before the last one goes on with the character. -/
theorem chunksFrom_inner (missing : Nat) (bytes : List UInt8) :
    chunksFrom (some ⟨before, value, missing + 1, lowest, highest⟩)
        (byte :: bytes) =
      chunksFrom (some ⟨before ++ [byte], value * 64 + (byte.toNat - 0x80),
        missing, 0x80, 0xBF⟩) bytes := by
  rw [chunksFrom, Begun.readNext, if_pos ⟨low, high⟩,
    if_neg (Nat.succ_ne_zero missing)]
  rfl

end Begun

theorem chunksFrom_two
    {first second : UInt8}
    (low : 0xC2 ≤ first.toNat)
    (high : first.toNat ≤ 0xDF)
    (isTail : IsTail second)
    {c : Char}
    (isChar : c.toNat = (first.toNat - 0xC0) * 64 + (second.toNat - 0x80))
    (bytes : List UInt8) :
    chunksFrom none (first :: second :: bytes) =
      .char c :: chunksFrom none bytes := by
  rw [chunksFrom_of_begin? (by omega) (begin?_of_two low high)]
  exact chunksFrom_last isTail.1 isTail.2 isChar bytes

theorem chunksFrom_three
    {first second third : UInt8}
    (low : 0xE0 ≤ first.toNat)
    (high : first.toNat ≤ 0xEF)
    (secondIsTail : IsTail second)
    (thirdIsTail : IsTail third)
    (notShorter : first.toNat = 0xE0 → 0xA0 ≤ second.toNat)
    (notSurrogate : first.toNat = 0xED → second.toNat ≤ 0x9F)
    {c : Char}
    (isChar : c.toNat = ((first.toNat - 0xE0) * 64 + (second.toNat - 0x80)) * 64 +
      (third.toNat - 0x80))
    (bytes : List UInt8) :
    chunksFrom none (first :: second :: third :: bytes) =
      .char c :: chunksFrom none bytes := by
  obtain ⟨tailLow, tailHigh⟩ := secondIsTail
  have aboveLowest :
      (if first.toNat = 0xE0 then 0xA0 else 0x80) ≤ second.toNat := by
    split <;> omega
  have belowHighest :
      second.toNat ≤ if first.toNat = 0xED then 0x9F else 0xBF := by
    split <;> omega
  rw [chunksFrom_of_begin? (by omega) (begin?_of_three low high),
    chunksFrom_inner aboveLowest belowHighest]
  exact chunksFrom_last thirdIsTail.1 thirdIsTail.2 isChar bytes

theorem chunksFrom_four
    {first second third fourth : UInt8}
    (low : 0xF0 ≤ first.toNat)
    (high : first.toNat ≤ 0xF4)
    (secondIsTail : IsTail second)
    (thirdIsTail : IsTail third)
    (fourthIsTail : IsTail fourth)
    (notShorter : first.toNat = 0xF0 → 0x90 ≤ second.toNat)
    (notBeyond : first.toNat = 0xF4 → second.toNat ≤ 0x8F)
    {c : Char}
    (isChar : c.toNat =
      (((first.toNat - 0xF0) * 64 + (second.toNat - 0x80)) * 64 +
        (third.toNat - 0x80)) * 64 + (fourth.toNat - 0x80))
    (bytes : List UInt8) :
    chunksFrom none (first :: second :: third :: fourth :: bytes) =
      .char c :: chunksFrom none bytes := by
  obtain ⟨tailLow, tailHigh⟩ := secondIsTail
  have aboveLowest :
      (if first.toNat = 0xF0 then 0x90 else 0x80) ≤ second.toNat := by
    split <;> omega
  have belowHighest :
      second.toNat ≤ if first.toNat = 0xF4 then 0x8F else 0xBF := by
    split <;> omega
  rw [chunksFrom_of_begin? (by omega) (begin?_of_four low high),
    chunksFrom_inner aboveLowest belowHighest,
    chunksFrom_inner thirdIsTail.1 thirdIsTail.2]
  exact chunksFrom_last fourthIsTail.1 fourthIsTail.2 isChar bytes

/-- A character is read from its bytes. -/
theorem chunksFrom_utf8EncodeChar (c : Char) (bytes : List UInt8) :
    chunksFrom none (String.utf8EncodeChar c ++ bytes) =
      .char c :: chunksFrom none bytes := by
  have bounded : c.val.toNat < 0x110000 := by
    rcases c.valid with low | high
    · omega
    · exact high.2
  have noSurrogate : c.val.toNat < 0xD800 ∨ 0xDFFF < c.val.toNat :=
    c.valid.imp_right And.left
  have byteValue : ∀ {number : Nat}, number < 256 →
      (UInt8.ofNat number).toNat = number := UInt8.toNat_ofNat_of_lt'
  have tail : ∀ {number : Nat},
      (UInt8.ofNat (number % 64 + 128)).toNat = number % 64 + 128 :=
    byteValue (by omega)
  have isTail : ∀ {number : Nat}, IsTail (UInt8.ofNat (number % 64 + 128)) := by
    intro number
    rw [IsTail, tail]
    omega
  unfold String.utf8EncodeChar
  dsimp only
  split_ifs with one two three
  · rw [List.singleton_append, chunksFrom, readFirst, byteValue (by omega),
      if_pos (by omega)]
    exact congrArg (Chunk.char · :: _) (Char.ofNat_toNat c)
  · have first : (UInt8.ofNat (c.val.toNat / 64 % 32 + 192)).toNat =
        c.val.toNat / 64 % 32 + 192 := byteValue (by omega)
    apply chunksFrom_two _ _ isTail
    all_goals
      simp only [first, tail, Char.toNat]
      omega
  · have first : (UInt8.ofNat (c.val.toNat / 4096 % 16 + 224)).toNat =
        c.val.toNat / 4096 % 16 + 224 := byteValue (by omega)
    apply chunksFrom_three _ _ isTail isTail
    all_goals
      simp only [first, tail, Char.toNat]
      omega
  · have first : (UInt8.ofNat (c.val.toNat / 262144 % 8 + 240)).toNat =
        c.val.toNat / 262144 % 8 + 240 := byteValue (by omega)
    apply chunksFrom_four _ _ isTail isTail isTail
    all_goals
      simp only [first, tail, Char.toNat]
      omega

/-- A text is read from its bytes. -/
theorem chunks_encode (text : List Char) :
    chunks (encode text) = text.map .char := by
  induction text with
  | nil => rfl
  | cons c text inductionHypothesis =>
      rw [encode_cons, chunks, chunksFrom_utf8EncodeChar, ← chunks,
        inductionHypothesis, List.map_cons]

theorem readBytes_bytes (text : String) : readBytes (bytes text) = text := by
  rw [readBytes, bytes_eq_encode, chunks_encode, List.map_map]
  simp [Function.comp_def, Chunk.read]

/-- Bytes that are no text are read with a replacement in them. -/
theorem replacement_mem_readBytes
    {raw : List UInt8}
    (isNoText : String.fromUTF8? ⟨raw.toArray⟩ = none) :
    replacement ∈ (readBytes raw).toList := by
  by_contra unbroken
  have areChars : ∃ text : List Char, chunks raw = text.map .char := by
    rw [readBytes, String.toList_ofList] at unbroken
    generalize chunks raw = read at unbroken
    induction read with
    | nil => exact ⟨[], rfl⟩
    | cons chunk others inductionHypothesis =>
        rw [List.map_cons, List.mem_cons, not_or] at unbroken
        obtain ⟨text, rfl⟩ := inductionHypothesis unbroken.2
        cases chunk with
        | char c => exact ⟨c :: text, rfl⟩
        | broken bytes => exact absurd rfl unbroken.1
  obtain ⟨text, areText⟩ := areChars
  have isText : raw = bytes (String.ofList text) := by
    rw [← flatMap_row_chunks raw, areText, bytes_ofList, encode, List.flatMap_map]
    rfl
  have isValid : (⟨raw.toArray⟩ : ByteArray).IsValidUTF8 := by
    simpa [isText, bytes] using (String.ofList text).isValidUTF8
  simp [String.fromUTF8?, isValid] at isNoText

end Text
end EnvTags
