import EnvTags.Proofs.Text.Encoding
import EnvTags.Text.Quoted

/-!
# Line feeds in interpreted literals

A line feed cannot stand in the body of an interpreted literal as it is. So the
string that a body stands for has a line feed exactly if one of its escapes is
for a line feed. No character but the line feed has the byte of the line feed in
its encoding, so that no other escape can help to write one.
-/

namespace EnvTags
namespace Text
namespace Quoted

/-- The byte of a line feed. -/
def lineFeed : UInt8 := 10

/-- One of the units of a body is an escape for a line feed. -/
inductive WritesLineFeed : List Char → Prop
  /-- The first unit is. -/
  | here
      {c : Char}
      {rest left : List Char}
      (escape : escape? c rest = some ([lineFeed], left)) :
      WritesLineFeed ('\\' :: c :: rest)
  /-- A later unit is. -/
  | later
      {body rest : List Char}
      {bytes : List UInt8}
      (unit : unit? body = some (bytes, rest))
      (writes : WritesLineFeed rest) :
      WritesLineFeed body

/-! ## Bytes -/

theorem eq_ten_of_lineFeed_eq
    {value : Nat}
    (small : value < 256)
    (same : lineFeed = UInt8.ofNat value) :
    value = 10 := by
  have sameNumber := congrArg UInt8.toNat same
  rw [UInt8.toNat_ofNat_of_lt' small] at sameNumber
  exact sameNumber.symm

/-- Only the line feed is encoded with its byte. -/
theorem lineFeed_mem_utf8EncodeChar_iff {c : Char} :
    lineFeed ∈ String.utf8EncodeChar c ↔ c = '\n' := by
  constructor
  · intro inside
    unfold String.utf8EncodeChar at inside
    simp only at inside
    -- All bytes of a longer encoding are above 127.
    split at inside
    · rename_i small
      have isTen := eq_ten_of_lineFeed_eq (by omega) (List.mem_singleton.mp inside)
      exact Char.ext (UInt32.toNat_inj.mp isTen)
    · exfalso
      split at inside
      · simp only [List.mem_cons, List.not_mem_nil, or_false] at inside
        rcases inside with same | same <;>
          have := eq_ten_of_lineFeed_eq (by omega) same <;> omega
      · split at inside
        · simp only [List.mem_cons, List.not_mem_nil, or_false] at inside
          rcases inside with same | same | same <;>
            have := eq_ten_of_lineFeed_eq (by omega) same <;> omega
        · simp only [List.mem_cons, List.not_mem_nil, or_false] at inside
          rcases inside with same | same | same | same <;>
            have := eq_ten_of_lineFeed_eq (by omega) same <;> omega
  · rintro rfl
    decide

/-- The bytes that a string is read from have the byte of a line feed exactly if
the string has a line feed. -/
theorem lineFeed_mem_iff_of_fromUTF8?
    {bytes : List UInt8}
    {text : String}
    (read : String.fromUTF8? ⟨bytes.toArray⟩ = some text) :
    lineFeed ∈ bytes ↔ '\n' ∈ text.toList := by
  rw [← encode_of_fromUTF8? read, encode, List.mem_flatMap]
  constructor
  · rintro ⟨c, inText, inside⟩
    exact lineFeed_mem_utf8EncodeChar_iff.mp inside ▸ inText
  · intro inText
    exact ⟨'\n', inText, lineFeed_mem_utf8EncodeChar_iff.mpr rfl⟩

/-! ## Units -/

theorem eq_singleton_of_utf8EncodeChar
    {c : Char}
    (inside : lineFeed ∈ String.utf8EncodeChar c) :
    String.utf8EncodeChar c = [lineFeed] := by
  rw [lineFeed_mem_utf8EncodeChar_iff.mp inside]
  decide

theorem eq_singleton_of_byte?
    {value : Nat}
    {bytes : List UInt8}
    (isByte : byte? value = some bytes)
    (inside : lineFeed ∈ bytes) :
    bytes = [lineFeed] := by
  unfold byte? at isByte
  split at isByte
  · obtain rfl := Option.some.inj isByte
    rw [List.mem_singleton.mp inside]
  · cases isByte

theorem eq_singleton_of_codePointBytes?
    {value : Nat}
    {bytes : List UInt8}
    (isCodePoint : codePointBytes? value = some bytes)
    (inside : lineFeed ∈ bytes) :
    bytes = [lineFeed] := by
  unfold codePointBytes? at isCodePoint
  split at isCodePoint
  · obtain rfl := Option.some.inj isCodePoint
    exact eq_singleton_of_utf8EncodeChar inside
  · cases isCodePoint

theorem eq_singleton_of_numberBytes?
    {toBytes? : Nat → Option (List UInt8)}
    (single : ∀ {value bytes}, toBytes? value = some bytes → lineFeed ∈ bytes →
      bytes = [lineFeed])
    {number : Option (Nat × List Char)}
    {left : List Char}
    {bytes : List UInt8}
    (read : numberBytes? toBytes? number = some (bytes, left))
    (inside : lineFeed ∈ bytes) :
    bytes = [lineFeed] := by
  unfold numberBytes? at read
  split at read
  · cases read
  · obtain ⟨found, isFound, same⟩ := Option.map_eq_some_iff.mp read
    obtain ⟨rfl, -⟩ := Prod.mk.inj same
    exact single isFound inside

/-- The bytes of an escape have the byte of a line feed only if it is all they
are. -/
theorem eq_singleton_of_escape?
    {c : Char}
    {text left : List Char}
    {bytes : List UInt8}
    (read : escape? c text = some (bytes, left))
    (inside : lineFeed ∈ bytes) :
    bytes = [lineFeed] := by
  unfold escape? at read
  split at read
  · obtain ⟨rfl, -⟩ := Prod.mk.inj (Option.some.inj read)
    exact eq_singleton_of_utf8EncodeChar inside
  · split at read
    · exact eq_singleton_of_numberBytes? eq_singleton_of_byte? read inside
    · split at read
      · exact eq_singleton_of_numberBytes? eq_singleton_of_codePointBytes? read
          inside
      · split at read
        · exact eq_singleton_of_numberBytes? eq_singleton_of_codePointBytes? read
            inside
        · exact eq_singleton_of_numberBytes? eq_singleton_of_byte? read inside

/-- A unit has the byte of a line feed exactly if it is an escape for it. -/
theorem lineFeed_mem_iff_of_unit?
    {body rest : List Char}
    {bytes : List UInt8}
    (read : unit? body = some (bytes, rest)) :
    lineFeed ∈ bytes ↔
      ∃ c text, body = '\\' :: c :: text ∧
        escape? c text = some ([lineFeed], rest) := by
  unfold unit? at read
  split at read
  · cases read
  · split at read
    · cases read
    · rename_i plain
      obtain ⟨rfl, -⟩ := Prod.mk.inj (Option.some.inj read)
      rw [not_or, not_or] at plain
      simp [lineFeed_mem_utf8EncodeChar_iff, plain.2.2]
  · split at read
    · rename_i c d text isBackslash
      subst isBackslash
      constructor
      · intro inside
        obtain rfl := eq_singleton_of_escape? read inside
        exact ⟨d, text, rfl, read⟩
      · rintro ⟨_, _, ⟨⟩, escape⟩
        obtain ⟨rfl, -⟩ := Prod.mk.inj (Option.some.inj (read.symm.trans escape))
        exact List.mem_cons_self
    · rename_i c d text notBackslash
      split at read
      · cases read
      · rename_i plain
        obtain ⟨rfl, -⟩ := Prod.mk.inj (Option.some.inj read)
        rw [not_or] at plain
        simp [lineFeed_mem_utf8EncodeChar_iff, plain.2, notBackslash]

/-- A body with bytes has the byte of a line feed exactly if one of its escapes is
for a line feed. -/
theorem lineFeed_mem_iff_of_bytes?
    {body : List Char}
    {bytes : List UInt8}
    (read : bytes? body = some bytes) :
    lineFeed ∈ bytes ↔ WritesLineFeed body := by
  fun_induction bytes? body generalizing bytes with
  | case1 =>
      obtain rfl := Option.some.inj read
      constructor
      · intro inside
        cases inside
      · intro writes
        cases writes with
        | later unit _ => cases unit
  | case2 => cases read
  | case3 c text first rest unit inductionHypothesis =>
      obtain ⟨others, readRest, rfl⟩ := Option.map_eq_some_iff.mp read
      rw [List.mem_append, lineFeed_mem_iff_of_unit? unit,
        inductionHypothesis readRest]
      constructor
      · rintro (⟨d, after, isBody, escape⟩ | writes)
        · rw [isBody]
          exact .here escape
        · exact .later unit writes
      · intro writes
        cases writes with
        | here escape =>
            have sameUnit := unit.symm.trans (by rw [unit?, if_pos rfl, escape])
            obtain ⟨rfl, rfl⟩ := Prod.mk.inj (Option.some.inj sameUnit)
            exact .inl ⟨_, _, rfl, escape⟩
        | later otherUnit writes =>
            obtain ⟨rfl, rfl⟩ :=
              Prod.mk.inj (Option.some.inj (unit.symm.trans otherUnit))
            exact .inr writes

/-- The string that a body stands for has a line feed exactly if one of the
escapes in the body is for a line feed. -/
theorem mem_decode_iff
    {body : List Char}
    {text : String}
    (decoded : decode body = some text) :
    '\n' ∈ text.toList ↔ WritesLineFeed body := by
  unfold decode at decoded
  cases read : bytes? body with
  | none => simp [read] at decoded
  | some bytes =>
      rw [← lineFeed_mem_iff_of_bytes? read]
      rw [read] at decoded
      exact (lineFeed_mem_iff_of_fromUTF8? decoded).symm

end Quoted
end Text
end EnvTags
