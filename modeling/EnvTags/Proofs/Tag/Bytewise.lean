import EnvTags.Proofs.Text.Bytewise
import EnvTags.Tag.Pair

/-!
# Looking up a tag byte by byte

A value can be looked up in the bytes of a tag, with indices. Spaces are skipped,
the bytes of a name are passed over, a colon and a quote have to follow, and the
closing quote is searched for, where a backslash hides the byte behind it. Here
this search is defined, and shown to find what the reading of pairs of characters
finds. An index at which it cuts the tag is never inside of a character.
-/

namespace EnvTags
namespace Tag
namespace Bytewise

open Text (encode)
open Text.Bytewise (ended unquote)

/-- The index of the first byte from an index on that is not of a kind, or of the
end. -/
def skip (ofKind : UInt8 → Bool) (bytes : List UInt8) (index : Nat) : Nat :=
  match found : bytes[index]? with
  | none => index
  | some byte => if ofKind byte then skip ofKind bytes (index + 1) else index
termination_by bytes.length - index
decreasing_by
  have := (List.getElem?_eq_some_iff.mp found).1
  omega

/-- The index of the first quote from an index on that no backslash hides. Without
one it is not below the length. -/
def closing (bytes : List UInt8) (index : Nat) : Nat :=
  match found : bytes[index]? with
  | none => index
  | some byte =>
      if byte = '"'.toUInt8 then index
      else if byte = '\\'.toUInt8 then closing bytes (index + 2)
      else closing bytes (index + 1)
termination_by bytes.length - index
decreasing_by
  all_goals
    have := (List.getElem?_eq_some_iff.mp found).1
    omega

/-- The bytes from an index up to another one. -/
def slice (bytes : List UInt8) (start stop : Nat) : List UInt8 :=
  (bytes.drop start).take (stop - start)

/-- A name has bytes above the space that are no colon, quote or delete. -/
def isNameByte (byte : UInt8) : Bool :=
  ' '.toUInt8 < byte && byte != ':'.toUInt8 && byte != '"'.toUInt8 &&
    byte != '\x7f'.toUInt8

/-- Where a pair stands in a tag. -/
structure Span where
  /-- The index of the name. -/
  start : Nat
  /-- The index behind the name. -/
  nameEnd : Nat
  /-- The index of the closing quote. -/
  closing : Nat

/-- A colon and a quote stand at an index. -/
def opensAt (bytes : List UInt8) (index : Nat) : Bool :=
  bytes[index]? == some ':'.toUInt8 && bytes[index + 1]? == some '"'.toUInt8

/-- Where the first pair from an index on stands. -/
def span? (bytes : List UInt8) (index : Nat) : Option Span :=
  let start := skip (· == ' '.toUInt8) bytes index
  let nameEnd := skip isNameByte bytes start
  if nameEnd = start ∨ opensAt bytes nameEnd = false then none
  else if bytes.length ≤ closing bytes (nameEnd + 2) then none
  else some ⟨start, nameEnd, closing bytes (nameEnd + 2)⟩

theorem le_skip
    (ofKind : UInt8 → Bool)
    (bytes : List UInt8)
    (index : Nat) :
    index ≤ skip ofKind bytes index := by
  fun_induction skip ofKind bytes index with
  | case1 => exact Nat.le_refl _
  | case2 index byte found ofKind inductionHypothesis => omega
  | case3 => exact Nat.le_refl _

theorem le_closing (bytes : List UInt8) (index : Nat) :
    index ≤ closing bytes index := by
  fun_induction closing bytes index with
  | case1 => exact Nat.le_refl _
  | case2 => exact Nat.le_refl _
  | case3 index found inductionHypothesis => omega
  | case4 index byte found notQuote notBackslash inductionHypothesis => omega

/-- A pair ends behind the index from which on it is searched for, and before the
end. -/
theorem closing_of_span?
    {bytes : List UInt8}
    {index : Nat}
    {span : Span}
    (found : span? bytes index = some span) :
    index ≤ span.closing ∧ span.closing < bytes.length := by
  have toStart := le_skip (· == ' '.toUInt8) bytes index
  have toNameEnd := le_skip isNameByte bytes
    (skip (· == ' '.toUInt8) bytes index)
  have toClosing := le_closing bytes
    (skip isNameByte bytes (skip (· == ' '.toUInt8) bytes index) + 2)
  unfold span? at found
  simp only at found
  split at found
  · cases found
  · split at found
    · cases found
    · obtain rfl := Option.some.inj found
      simp only
      omega

/-- The value of the first pair with a name, from an index on. -/
def lookupFrom (bytes key : List UInt8) (index : Nat) : Option (List UInt8) :=
  match found : span? bytes index with
  | none => none
  | some span =>
      if slice bytes span.start span.nameEnd = key then
        unquote (slice bytes (span.nameEnd + 1) (span.closing + 1))
      else lookupFrom bytes key (span.closing + 1)
termination_by bytes.length - index
decreasing_by
  have := closing_of_span? found
  omega

/-- The bytes of the value that a tag has under a key. -/
def lookup (bytes key : List UInt8) : Option (List UInt8) :=
  lookupFrom bytes key 0

/-- The indices at which a tag is cut to find where the first value from an index on
opens: behind the spaces, behind the name, and behind the colon and the quote if
they are there. -/
def openingCuts (bytes : List UInt8) (index : Nat) : List Nat :=
  let start := skip (· == ' '.toUInt8) bytes index
  let nameEnd := skip isNameByte bytes start
  [start, nameEnd] ++
    if opensAt bytes nameEnd then [nameEnd + 1, nameEnd + 2] else []

/-- The indices at which a tag is cut from an index on. In front of the closing
quote of a pair and behind it the tag is cut again. -/
def cutsFrom (bytes : List UInt8) (index : Nat) : List Nat :=
  openingCuts bytes index ++
    match _ : span? bytes index with
    | none => []
    | some span =>
        [span.closing, span.closing + 1] ++ cutsFrom bytes (span.closing + 1)
termination_by bytes.length - index
decreasing_by
  have := closing_of_span? (by assumption)
  omega

/-- The indices at which a tag is cut. -/
def cuts (bytes : List UInt8) : List Nat :=
  cutsFrom bytes 0

/-! ## Indices of characters -/

/-- The number of bytes of a text, which is the index behind it. -/
def size (text : List Char) : Nat :=
  (encode text).length

theorem size_append (left right : List Char) :
    size (left ++ right) = size left + size right := by
  simp [size]

theorem drop_size (done left : List Char) :
    (encode (done ++ left)).drop (size done) = encode left := by
  simp [size]

theorem slice_size (before part after : List Char) :
    slice (encode (before ++ part ++ after)) (size before)
      (size (before ++ part)) = encode part := by
  have behind : (encode (before ++ part ++ after)).drop (size before) =
      encode part ++ encode after := by
    rw [List.append_assoc, drop_size, Text.encode_append]
  rw [slice, behind, size_append, Nat.add_sub_cancel_left, size, List.take_left]

theorem skip_eq_add
    (ofKind : UInt8 → Bool)
    (bytes : List UInt8)
    (index : Nat) :
    skip ofKind bytes index =
      index + ((bytes.drop index).takeWhile ofKind).length := by
  fun_induction skip ofKind bytes index with
  | case1 index beyond =>
      rw [List.drop_eq_nil_of_le (List.getElem?_eq_none_iff.mp beyond)]
      rfl
  | case2 index byte found isOfKind inductionHypothesis =>
      obtain ⟨inside, isByte⟩ := List.getElem?_eq_some_iff.mp found
      rw [inductionHypothesis, List.drop_eq_getElem_cons inside, isByte,
        List.takeWhile_cons_of_pos isOfKind, List.length_cons]
      omega
  | case3 index byte found notOfKind =>
      obtain ⟨inside, isByte⟩ := List.getElem?_eq_some_iff.mp found
      rw [List.drop_eq_getElem_cons inside, isByte,
        List.takeWhile_cons_of_neg notOfKind]
      rfl

/-- Bytes are skipped up to the index behind the characters that are skipped. -/
theorem skip_encode
    {ofByte : UInt8 → Bool}
    {ofChar : Char → Bool}
    (agree : Text.Agree ofByte ofChar)
    (done left : List Char) :
    skip ofByte (encode (done ++ left)) (size done) =
      size (done ++ left.takeWhile ofChar) := by
  rw [skip_eq_add, drop_size, Text.takeWhile_encode agree, size_append]
  rfl

theorem isSpace_agree : Text.Agree (· == ' '.toUInt8) (· == ' ') := by
  apply Text.agree_of_lt
  · decide
  · intro byte wide
    have different : byte ≠ ' '.toUInt8 := by
      rintro rfl
      exact absurd wide (by decide)
    exact beq_eq_false_iff_ne.mpr different
  · intro c wide
    have different : c ≠ ' ' := by
      rintro rfl
      exact absurd wide (by decide)
    exact beq_eq_false_iff_ne.mpr different

/-- Every byte and every character from 128 on can stand in a name. -/
theorem isNameByte_agree : Text.Agree isNameByte isNameChar := by
  have byteWide : ∀ byte : UInt8, 128 ≤ byte.toNat → isNameByte byte = true := by
    intro byte wide
    have above : ' '.toUInt8 < byte :=
      UInt8.lt_iff_toNat_lt.mpr (Nat.lt_of_lt_of_le (by decide) wide)
    have different : byte ≠ ':'.toUInt8 ∧ byte ≠ '"'.toUInt8 ∧
        byte ≠ '\x7f'.toUInt8 := by
      refine ⟨?_, ?_, ?_⟩ <;> rintro rfl <;> exact absurd wide (by decide)
    simp [isNameByte, above, different]
  have charWide : ∀ c : Char, 128 ≤ c.toNat → isNameChar c = true := by
    intro c wide
    have above : ' ' < c := Nat.lt_of_lt_of_le (by decide) wide
    have different : c ≠ ':' ∧ c ≠ '"' ∧ c ≠ '\x7f' := by
      refine ⟨?_, ?_, ?_⟩ <;> rintro rfl <;> exact absurd wide (by decide)
    simp [isNameChar, above, different]
  exact Text.agree_of_lt (by decide) byteWide charWide

/-! ## Quotes -/

/-- The search for the closing quote, by the byte at the index. -/
theorem closing_cons
    {bytes after : List UInt8}
    {byte : UInt8}
    {index : Nat}
    (behind : bytes.drop index = byte :: after) :
    closing bytes index =
      if byte = '"'.toUInt8 then index
      else if byte = '\\'.toUInt8 then closing bytes (index + 2)
      else closing bytes (index + 1) := by
  have found : bytes[index]? = some byte := by
    rw [← List.head?_drop, behind]
    rfl
  conv_lhs => unfold closing
  split
  · rename_i beyond
    cases beyond.symm.trans found
  · rename_i other atIndex
    obtain rfl := Option.some.inj (atIndex.symm.trans found)
    rfl

/-- Bytes that are neither a quote nor a backslash are passed over. -/
theorem closing_append
    {bytes passed after : List UInt8}
    {index : Nat}
    (behind : bytes.drop index = passed ++ after)
    (plain : ∀ byte ∈ passed, byte ≠ '"'.toUInt8 ∧ byte ≠ '\\'.toUInt8) :
    closing bytes index = closing bytes (index + passed.length) := by
  induction passed generalizing index with
  | nil => rfl
  | cons byte passed inductionHypothesis =>
      have next : bytes.drop (index + 1) = passed ++ after := by
        rw [← List.drop_drop, behind]
        rfl
      obtain ⟨⟨notQuote, notBackslash⟩, others⟩ := List.forall_mem_cons.mp plain
      rw [closing_cons behind, if_neg notQuote, if_neg notBackslash,
        inductionHypothesis next others, List.length_cons]
      congr 1
      omega

/-- The bytes of a character from 128 on are neither a quote nor a backslash. -/
theorem plain_of_wide
    {byte : UInt8}
    (wide : 128 ≤ byte.toNat) :
    byte ≠ '"'.toUInt8 ∧ byte ≠ '\\'.toUInt8 := by
  constructor <;> rintro rfl <;> exact absurd wide (by decide)

theorem closing_encode_quote (done left : List Char) :
    closing (encode (done ++ '"' :: left)) (size done) = size done := by
  have behind : (encode (done ++ '"' :: left)).drop (size done) =
      '"'.toUInt8 :: encode left := drop_size done ('"' :: left)
  rw [closing_cons behind, if_pos rfl]

/-- A character that is neither a quote nor a backslash is passed over. -/
theorem closing_encode_plain
    {c : Char}
    (notQuote : c ≠ '"')
    (notBackslash : c ≠ '\\')
    (done left : List Char) :
    closing (encode (done ++ c :: left)) (size done) =
      closing (encode (done ++ c :: left)) (size (done ++ [c])) := by
  have plain : ∀ byte ∈ String.utf8EncodeChar c,
      byte ≠ '"'.toUInt8 ∧ byte ≠ '\\'.toUInt8 := by
    intro byte inside
    by_cases small : c.toNat < 128
    · rw [Text.utf8EncodeChar_of_lt small, List.mem_singleton] at inside
      rw [inside, ne_eq, ne_eq, Text.toUInt8_inj_of_lt small (by decide),
        Text.toUInt8_inj_of_lt small (by decide)]
      exact ⟨notQuote, notBackslash⟩
    · exact plain_of_wide
        (Text.le_of_mem_utf8EncodeChar (Nat.le_of_not_lt small) inside)
  have isEncoded : size [c] = (String.utf8EncodeChar c).length := by
    simp [size]
  rw [closing_append (drop_size done (c :: left)) plain, size_append, isEncoded]

/-- A backslash hides the first byte of the character behind it. The others are
neither a quote nor a backslash. -/
theorem closing_encode_backslash
    (c : Char)
    (done left : List Char) :
    closing (encode (done ++ '\\' :: c :: left)) (size done) =
      closing (encode (done ++ '\\' :: c :: left)) (size (done ++ ['\\', c])) := by
  obtain ⟨first, others, encoded⟩ :=
    List.exists_cons_of_ne_nil (String.utf8EncodeChar_ne_nil (c := c))
  have plain : ∀ byte ∈ others, byte ≠ '"'.toUInt8 ∧ byte ≠ '\\'.toUInt8 := by
    intro byte inside
    by_cases small : c.toNat < 128
    · rw [Text.utf8EncodeChar_of_lt small] at encoded
      obtain ⟨-, rfl⟩ := List.cons.inj encoded
      cases inside
    · exact plain_of_wide (Text.le_of_mem_utf8EncodeChar (Nat.le_of_not_lt small)
        (by simp [encoded, inside]))
  have behind : (encode (done ++ '\\' :: c :: left)).drop (size done) =
      '\\'.toUInt8 :: first :: (others ++ encode left) := by
    rw [drop_size, Text.encode_cons, Text.encode_cons, encoded]
    rfl
  have hidden : (encode (done ++ '\\' :: c :: left)).drop (size done + 2) =
      others ++ encode left := by
    rw [← List.drop_drop, behind]
    rfl
  have isEncoded : size ['\\', c] = 2 + others.length := by
    have single : String.utf8EncodeChar '\\' = ['\\'.toUInt8] := by decide
    simp [size, single, encoded]
    omega
  rw [closing_cons behind, if_neg (by decide), if_pos rfl,
    closing_append hidden plain, size_append, isEncoded, Nat.add_assoc]

/-- The closing quote is found in bytes where it is found in characters. -/
theorem closing_of_closeQuote
    (done : List Char)
    {left value rest : List Char}
    (closed : closeQuote left = some (value, rest)) :
    closing (encode (done ++ left)) (size done) = size (done ++ value) := by
  -- A character that is passed over goes from what is left to what is done.
  fun_induction closeQuote left generalizing done value with
  | case1 => cases closed
  | case2 =>
      obtain ⟨rfl, rfl⟩ := Prod.mk.inj (Option.some.inj closed)
      rw [closing_encode_quote, List.append_nil]
  | case3 => cases closed
  | case4 d left =>
      obtain ⟨rfl, rfl⟩ := Prod.mk.inj (Option.some.inj closed)
      rw [closing_encode_quote, List.append_nil]
  | case5 d left _ inductionHypothesis =>
      obtain ⟨⟨hidden, after⟩, found, equal⟩ := Option.map_eq_some_iff.mp closed
      obtain ⟨rfl, rfl⟩ := Prod.mk.inj equal
      have behind := inductionHypothesis (done ++ ['\\', d]) found
      rw [closing_encode_backslash]
      simpa using behind
  | case6 c d left notQuote notBackslash inductionHypothesis =>
      obtain ⟨⟨passed, after⟩, found, equal⟩ := Option.map_eq_some_iff.mp closed
      obtain ⟨rfl, rfl⟩ := Prod.mk.inj equal
      have behind := inductionHypothesis (done ++ [c]) found
      rw [closing_encode_plain notQuote notBackslash]
      simpa using behind

/-- The closing quote is a byte of the tag. -/
theorem size_lt_of_closeQuote
    (done : List Char)
    {left value rest : List Char}
    (closed : closeQuote left = some (value, rest)) :
    size (done ++ value) < (encode (done ++ left)).length := by
  have whole : done ++ left = done ++ value ++ '"' :: rest := by
    rw [closeQuote_eq_append closed, List.append_assoc]
  have positive : 0 < size ('"' :: rest) := Nat.succ_pos _
  rw [whole, ← size, size_append (done ++ value)]
  omega

/-- Without a closing quote the search runs up to the end. -/
theorem le_closing_of_closeQuote
    (done : List Char)
    {left : List Char}
    (unclosed : closeQuote left = none) :
    (encode (done ++ left)).length ≤ closing (encode (done ++ left)) (size done) := by
  fun_induction closeQuote left generalizing done with
  | case1 =>
      rw [List.append_nil]
      exact le_closing _ _
  | case2 => cases unclosed
  | case3 c notQuote =>
      by_cases isBackslash : c = '\\'
      · -- A backslash at the end takes the search beyond the tag.
        subst isBackslash
        have behind : (encode (done ++ ['\\'])).drop (size done) =
            ['\\'.toUInt8] := drop_size done ['\\']
        have isLast : (encode (done ++ ['\\'])).length = size done + 1 :=
          size_append done ['\\']
        rw [closing_cons behind, if_neg (by decide), if_pos rfl, isLast]
        exact Nat.le_of_succ_le (le_closing _ _)
      · rw [closing_encode_plain notQuote isBackslash]
        exact le_closing _ _
  | case4 => cases unclosed
  | case5 d left _ inductionHypothesis =>
      have behind := inductionHypothesis (done ++ ['\\', d])
        (Option.map_eq_none_iff.mp unclosed)
      rw [closing_encode_backslash]
      simpa using behind
  | case6 c d left notQuote notBackslash inductionHypothesis =>
      have behind := inductionHypothesis (done ++ [c])
        (Option.map_eq_none_iff.mp unclosed)
      rw [closing_encode_plain notQuote notBackslash]
      simpa using behind

/-! ## Pairs -/

/-- A text starts with a character below 128 exactly if its bytes start with that
byte. -/
theorem head?_encode
    {d : Char}
    (small : d.toNat < 128)
    (text : List Char) :
    (encode text).head? = some d.toUInt8 ↔ text.head? = some d := by
  cases text with
  | nil => simp
  | cons c text =>
      rw [Text.encode_cons, List.head?_cons, Option.some.injEq]
      rcases Text.utf8EncodeChar_cases c with
        ⟨cSmall, encoded⟩ | ⟨wide, first, others, encoded, high⟩
      · rw [encoded, List.singleton_append, List.head?_cons, Option.some.injEq,
          Text.toUInt8_inj_of_lt cSmall small]
      · have different : c ≠ d := by
          rintro rfl
          omega
        have differentByte : first ≠ d.toUInt8 := by
          rintro rfl
          rw [Text.toNat_toUInt8_of_lt small] at high
          omega
        simp [encoded, different, differentByte]

/-- A value opens in bytes where it opens in characters. -/
theorem opensAt_encode (done left : List Char) :
    opensAt (encode (done ++ left)) (size done) = true ↔
      ∃ quoted, left = ':' :: '"' :: quoted := by
  have atIndex : (encode (done ++ left))[size done]? = (encode left).head? := by
    rw [← List.head?_drop, drop_size]
  have next : (encode (done ++ left))[size done + 1]? =
      ((encode left).drop 1).head? := by
    rw [← List.head?_drop, ← List.drop_drop, drop_size]
  rw [opensAt, Bool.and_eq_true, beq_iff_eq, beq_iff_eq, atIndex, next,
    head?_encode (by decide)]
  constructor
  · rintro ⟨colon, quote⟩
    obtain ⟨behind, rfl⟩ := List.head?_eq_some_iff.mp colon
    have atQuote : (encode behind).head? = some '"'.toUInt8 := quote
    rw [head?_encode (by decide)] at atQuote
    obtain ⟨quoted, rfl⟩ := List.head?_eq_some_iff.mp atQuote
    exact ⟨quoted, rfl⟩
  · rintro ⟨quoted, rfl⟩
    exact ⟨rfl, rfl⟩

/-- Where a pair stands behind some characters. -/
def spanOf (before : List Char) (pair : Pair) : Span where
  start := size before
  nameEnd := size (before ++ pair.name)
  closing := size (before ++ pair.name ++ ':' :: '"' :: pair.value)

theorem size_eq_zero_iff {text : List Char} : size text = 0 ↔ text = [] := by
  rw [size, List.length_eq_zero_iff]
  exact ⟨fun empty => Text.encode_injective empty, fun empty => empty ▸ rfl⟩

/-- The spaces that are skipped are put to what is read already. -/
theorem append_spaces_append (done left : List Char) :
    done ++ left =
      done ++ left.takeWhile (· == ' ') ++ left.dropWhile (· == ' ') := by
  rw [List.append_assoc, List.takeWhile_append_dropWhile]

/-- The first pair in bytes is the first pair in characters. -/
theorem span?_of_skip
    {before text : List Char}
    {index : Nat}
    (atStart : skip (· == ' '.toUInt8) (encode (before ++ text)) index =
      size before) :
    span? (encode (before ++ text)) index =
      (pair? text).map fun read => spanOf before read.1 := by
  obtain ⟨name, isName⟩ : ∃ name, text.takeWhile isNameChar = name := ⟨_, rfl⟩
  obtain ⟨behind, isBehind⟩ : ∃ behind, text.dropWhile isNameChar = behind :=
    ⟨_, rfl⟩
  have split : before ++ text = before ++ name ++ behind := by
    rw [← isName, ← isBehind, List.append_assoc, List.takeWhile_append_dropWhile]
  have atNameEnd : skip isNameByte (encode (before ++ text)) (size before) =
      size (before ++ name) := by
    rw [skip_encode isNameByte_agree, isName]
  have opens := opensAt_encode (before ++ name) behind
  have noName : size (before ++ name) = size before ↔ name.isEmpty = true := by
    rw [size_append, Nat.add_eq_left, size_eq_zero_iff, List.isEmpty_iff]
  unfold span? pair?
  simp only [atStart, atNameEnd, isName, isBehind, noName]
  by_cases empty : name.isEmpty = true
  · simp [empty]
  · by_cases opening : ∃ quoted, behind = ':' :: '"' :: quoted
    · obtain ⟨quoted, rfl⟩ := opening
      have opened : opensAt (encode (before ++ text)) (size (before ++ name)) =
          true := split ▸ opens.mpr ⟨quoted, rfl⟩
      have atValue : size (before ++ name) + 2 =
          size (before ++ name ++ [':', '"']) := (size_append _ [':', '"']).symm
      have valueBehind : before ++ text =
          before ++ name ++ [':', '"'] ++ quoted := by
        rw [split]
        simp
      rw [if_neg (by simpa [empty] using opened), if_neg empty, atValue,
        valueBehind]
      -- From here on both searches are for the closing quote alone.
      cases closed : closeQuote quoted with
      | none =>
          rw [if_pos (le_closing_of_closeQuote _ closed)]
          simp [closed]
      | some parts =>
          obtain ⟨value, rest⟩ := parts
          rw [closing_of_closeQuote _ closed,
            if_neg (Nat.not_le.mpr (size_lt_of_closeQuote _ closed))]
          simp [closed, spanOf]
    · have notOpened : opensAt (encode (before ++ text)) (size (before ++ name)) =
          false := Bool.eq_false_iff.mpr (split ▸ mt opens.mp opening)
      rw [if_pos (.inr notOpened)]
      split <;> simp_all

/-- A row of pairs goes on behind the spaces in front of its first pair. -/
theorem span?_encode (done left : List Char) :
    span? (encode (done ++ left)) (size done) =
      (pair? (left.dropWhile (· == ' '))).map fun read =>
        spanOf (done ++ left.takeWhile (· == ' ')) read.1 := by
  have atStart := skip_encode isSpace_agree done left
  rw [append_spaces_append] at atStart ⊢
  exact span?_of_skip atStart

/-- The index behind a pair is the one in front of the characters behind it. -/
theorem closing_succ_spanOf (before : List Char) (pair : Pair) :
    (spanOf before pair).closing + 1 =
      size (before ++ pair.name ++ ':' :: '"' :: pair.value ++ ['"']) :=
  (size_append _ ['"']).symm

section FirstPair

variable
  {before text rest : List Char}
  {pair : Pair}
  (read : pair? text = some (pair, rest))
include read

theorem eq_append_of_pair? :
    before ++ text =
      before ++ pair.name ++ ':' :: '"' :: pair.value ++ ['"'] ++ rest := by
  rw [pair?_eq_append read]
  simp

/-- The bytes of a pair's name. -/
theorem slice_name :
    slice (encode (before ++ text)) (spanOf before pair).start
        (spanOf before pair).nameEnd = encode pair.name := by
  rw [eq_append_of_pair? read, List.append_assoc (before ++ pair.name),
    List.append_assoc (before ++ pair.name)]
  exact slice_size before pair.name _

/-- The bytes of a pair's value, with both quotes. -/
theorem slice_literal :
    slice (encode (before ++ text)) ((spanOf before pair).nameEnd + 1)
        ((spanOf before pair).closing + 1) =
      '"'.toUInt8 :: ended pair.value := by
  have atQuote : (spanOf before pair).nameEnd + 1 =
      size (before ++ pair.name ++ [':']) := (size_append _ [':']).symm
  have literal : before ++ pair.name ++ ':' :: '"' :: pair.value ++ ['"'] =
      before ++ pair.name ++ [':'] ++ ('"' :: pair.value ++ ['"']) := by
    simp
  rw [eq_append_of_pair? read, atQuote, closing_succ_spanOf, literal, slice_size]
  exact Text.encode_append ('"' :: pair.value) ['"']

end FirstPair

theorem lookupFrom_of_span?
    {bytes : List UInt8}
    {index : Nat}
    {span : Span}
    (found : span? bytes index = some span)
    (key : List UInt8) :
    lookupFrom bytes key index =
      if slice bytes span.start span.nameEnd = key then
        unquote (slice bytes (span.nameEnd + 1) (span.closing + 1))
      else lookupFrom bytes key (span.closing + 1) := by
  conv_lhs => unfold lookupFrom
  split
  · rename_i missing
    cases missing.symm.trans found
  · rename_i other isSpan
    obtain rfl := Option.some.inj (isSpan.symm.trans found)
    rfl

theorem lookupFrom_of_span?_none
    {bytes : List UInt8}
    {index : Nat}
    (missing : span? bytes index = none)
    (key : List UInt8) :
    lookupFrom bytes key index = none := by
  unfold lookupFrom
  split
  · rfl
  · rename_i span found
    cases missing.symm.trans found

/-- The value under a key is that of the first pair with the key. -/
theorem lookupFrom_encode (key done left : List Char) :
    lookupFrom (encode (done ++ left)) (encode key) (size done) =
      ((pairs left).find? fun pair => pair.name == key).bind fun pair =>
        Text.Quoted.bytes? pair.value := by
  fun_induction pairs left generalizing done with
  | case1 left unread =>
      have missing := span?_encode done left
      rw [unread] at missing
      rw [lookupFrom_of_span?_none missing]
      rfl
  | case2 left pair rest read inductionHypothesis =>
      have found := span?_encode done left
      rw [read, Option.map_some] at found
      rw [lookupFrom_of_span? found, append_spaces_append, slice_name read,
        slice_literal read, Text.Bytewise.unquote_ended]
      by_cases isKey : pair.name = key
      · rw [if_pos (congrArg encode isKey),
          List.find?_cons_of_pos (by simpa using isKey)]
        rfl
      · rw [if_neg (Text.encode_injective.ne isKey),
          List.find?_cons_of_neg (by simpa using isKey), closing_succ_spanOf,
          eq_append_of_pair? read, inductionHypothesis]

/-! ## Cuts -/

/-- An index of a tag with some of its characters in front of it and the others
behind it. -/
def Between (whole : List Char) (index : Nat) : Prop :=
  ∃ before after, whole = before ++ after ∧ index = size before

theorem between_size (before after : List Char) :
    Between (before ++ after) (size before) :=
  ⟨before, after, rfl, rfl⟩

theorem between_add (before part after : List Char) :
    Between (before ++ (part ++ after)) (size before + size part) :=
  ⟨before ++ part, after, by rw [List.append_assoc],
    (size_append before part).symm⟩

theorem isValid_of_between
    {text : String}
    {index : Nat}
    (between : Between text.toList index) :
    String.Pos.Raw.IsValid text ⟨index⟩ := by
  obtain ⟨before, after, whole, rfl⟩ := between
  have isEnd : (String.ofList before).rawEndPos = ⟨size before⟩ := by
    rw [size, ← Text.bytes_ofList]
    rfl
  rw [String.Pos.Raw.isValid_iff_exists_append]
  refine ⟨String.ofList before, String.ofList after, ?_, isEnd.symm⟩
  rw [← String.ofList_append, ← whole, String.ofList_toList]

/-- The cuts up to where a value opens are between characters. -/
theorem between_of_mem_openingCuts
    {done left : List Char}
    {cut : Nat}
    (isCut : cut ∈ openingCuts (encode (done ++ left)) (size done)) :
    Between (done ++ left) cut := by
  have atStart := skip_encode isSpace_agree done left
  rw [append_spaces_append] at atStart isCut ⊢
  obtain ⟨before, isBefore⟩ : ∃ before,
      done ++ left.takeWhile (· == ' ') = before := ⟨_, rfl⟩
  obtain ⟨text, isText⟩ : ∃ text, left.dropWhile (· == ' ') = text := ⟨_, rfl⟩
  rw [isBefore, isText] at atStart isCut ⊢
  obtain ⟨name, isName⟩ : ∃ name, text.takeWhile isNameChar = name := ⟨_, rfl⟩
  have split : before ++ text = before ++ name ++ text.dropWhile isNameChar := by
    rw [← isName, List.append_assoc, List.takeWhile_append_dropWhile]
  simp only [openingCuts, atStart, skip_encode isNameByte_agree, isName] at isCut
  rcases List.mem_append.mp isCut with ofName | ofOpening
  · rcases List.mem_pair.mp ofName with rfl | rfl
    · exact between_size before text
    · rw [split]
      exact between_size _ _
  · split at ofOpening
    · rename_i opened
      rw [split, opensAt_encode] at opened
      obtain ⟨quoted, behind⟩ := opened
      rw [split, behind]
      rcases List.mem_pair.mp ofOpening with rfl | rfl
      · exact between_add (before ++ name) [':'] ('"' :: quoted)
      · exact between_add (before ++ name) [':', '"'] quoted
    · cases ofOpening

theorem cutsFrom_of_span?
    {bytes : List UInt8}
    {index : Nat}
    {span : Span}
    (found : span? bytes index = some span) :
    cutsFrom bytes index =
      openingCuts bytes index ++
        ([span.closing, span.closing + 1] ++ cutsFrom bytes (span.closing + 1)) := by
  conv_lhs => unfold cutsFrom
  split
  · rename_i missing
    cases missing.symm.trans found
  · rename_i other isSpan
    obtain rfl := Option.some.inj (isSpan.symm.trans found)
    rfl

theorem cutsFrom_of_span?_none
    {bytes : List UInt8}
    {index : Nat}
    (missing : span? bytes index = none) :
    cutsFrom bytes index = openingCuts bytes index := by
  unfold cutsFrom
  split
  · exact List.append_nil _
  · rename_i span found
    cases missing.symm.trans found

/-- Every index at which a tag is cut is between characters. -/
theorem between_of_mem_cutsFrom
    (done : List Char)
    {left : List Char}
    {cut : Nat}
    (isCut : cut ∈ cutsFrom (encode (done ++ left)) (size done)) :
    Between (done ++ left) cut := by
  fun_induction pairs left generalizing done with
  | case1 left unread =>
      have missing := span?_encode done left
      rw [unread] at missing
      rw [cutsFrom_of_span?_none missing] at isCut
      exact between_of_mem_openingCuts isCut
  | case2 left pair rest read inductionHypothesis =>
      have found := span?_encode done left
      rw [read, Option.map_some] at found
      rw [cutsFrom_of_span? found, List.mem_append, List.mem_append] at isCut
      rcases isCut with ofOpening | ofClosing | later
      · exact between_of_mem_openingCuts ofOpening
      · rw [append_spaces_append, eq_append_of_pair? read]
        rcases List.mem_pair.mp ofClosing with rfl | rfl
        · rw [List.append_assoc]
          exact between_size _ _
        · rw [closing_succ_spanOf]
          exact between_size _ _
      · rw [append_spaces_append, eq_append_of_pair? read,
          closing_succ_spanOf] at later
        rw [append_spaces_append, eq_append_of_pair? read]
        exact inductionHypothesis _ later

/-- The value that a tag has under a key is the one that is found in its bytes, if
that is valid UTF-8, and every index at which the bytes are cut is the start or the
end of a character. -/
theorem lookup_eq_bytewise (tag key : String) :
    Tag.lookup tag key =
        (lookup (Text.bytes tag) (Text.bytes key)).bind
          (fun value => String.fromUTF8? ⟨value.toArray⟩) ∧
      ∀ cut ∈ cuts (Text.bytes tag), String.Pos.Raw.IsValid tag ⟨cut⟩ := by
  rw [Text.bytes_eq_encode, Text.bytes_eq_encode]
  constructor
  · have found := lookupFrom_encode key.toList [] tag.toList
    rw [List.nil_append] at found
    rw [lookup, ← show size [] = 0 from rfl, found, Tag.lookup]
    cases (pairs tag.toList).find? fun pair => pair.name == key.toList with
    | none => rfl
    | some pair =>
        change Text.Quoted.decode pair.value = (Text.Quoted.bytes? pair.value).bind _
        unfold Text.Quoted.decode
        cases Text.Quoted.bytes? pair.value <;> rfl
  · intro cut isCut
    exact isValid_of_between (between_of_mem_cutsFrom [] isCut)

end Bytewise
end Tag
end EnvTags
