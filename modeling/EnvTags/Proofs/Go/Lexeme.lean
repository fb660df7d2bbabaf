import EnvTags.Go.Lexeme
import EnvTags.Proofs.Text.Spelling

/-!
# Lexemes at the start of a text

A word, a string literal or a punctuation mark is read as a whole in front of any
text that does not go on with it.
-/

namespace EnvTags
namespace Go
namespace Lexeme

open Text.Reader

/-! ## Readers that fail -/

theorem andThen_eq_none
    {first : Text.Reader}
    {text : List Char}
    (failed : first text = none)
    (second : Text.Reader) :
    andThen first second text = none := by
  simp only [andThen, failed]

theorem longest_eq_none
    {readers : List Text.Reader}
    {text : List Char}
    (failed : ∀ reader ∈ readers, reader text = none) :
    longest readers text = none := by
  unfold longest
  induction readers with
  | nil => rfl
  | cons reader readers inductionHypothesis =>
      obtain ⟨first, others⟩ := List.forall_mem_cons.mp failed
      rw [List.foldl_cons, first]
      exact inductionHypothesis others

theorem oneOf_eq_none
    {chars : List Char}
    {c : Char}
    (outside : c ∉ chars)
    (rest : List Char) :
    oneOf chars (c :: rest) = none := by
  simp [oneOf, one, outside]

section NoNumber

variable {c : Char} {rest : List Char}

theorem zero_eq_none (notDigit : c.isDigit = false) :
    oneOf ['0'] (c :: rest) = none := by
  refine oneOf_eq_none (fun isZero => ?_) rest
  obtain rfl := List.mem_singleton.mp isZero
  cases notDigit

theorem digits_eq_none (notDigit : c.isDigit = false) :
    digits Char.isDigit (c :: rest) = none := by
  simp [digits, notDigit]

/-- An integer starts with a digit. -/
theorem integer_eq_none (notDigit : c.isDigit = false) :
    integer (c :: rest) = none := by
  have noBase : ∀ letters isDigit, basedInteger letters isDigit (c :: rest) = none :=
    fun _ _ => andThen_eq_none (zero_eq_none notDigit) _
  have notOther : one (fun d => '1' ≤ d && d ≤ '9') (c :: rest) = none := by
    have outside : ¬('1' ≤ c ∧ c ≤ '9') := by
      rintro ⟨low, high⟩
      have isDigit : c.isDigit = true := by
        simp only [Char.isDigit, Bool.and_eq_true, decide_eq_true_eq]
        exact ⟨Nat.le_trans (show 48 ≤ 49 by decide) low, high⟩
      simp [isDigit] at notDigit
    simpa [one] using outside
  have noDecimal : decimalInteger (c :: rest) = none :=
    longest_eq_none (by simp [zero_eq_none notDigit, andThen_eq_none notOther])
  have noOctal : octalInteger (c :: rest) = none :=
    longest_eq_none (by simp [noBase, andThen_eq_none (zero_eq_none notDigit)])
  exact longest_eq_none (by simp [noBase, noDecimal, noOctal])

/-- A number in decimal digits starts with one of them, or with a point before
one. -/
theorem decimalFloat_eq_none
    (notDigit : c.isDigit = false)
    (noFraction : c = '.' → ∀ d ∈ rest.head?, d.isDigit = false) :
    decimalFloat (c :: rest) = none := by
  have noPoint : andThen (oneOf ['.']) (andThen (digits Char.isDigit)
      (Text.Reader.optionally (exponent ['e', 'E']))) (c :: rest) = none := by
    by_cases isPoint : c = '.'
    · have noDigits : digits Char.isDigit rest = none := by
        cases rest with
        | nil => rfl
        | cons d rest => exact digits_eq_none (noFraction isPoint d rfl)
      simp [andThen, oneOf, one, isPoint, noDigits]
    · exact andThen_eq_none (oneOf_eq_none (by simpa using isPoint) rest) _
  exact longest_eq_none (by simp [noPoint, andThen_eq_none (digits_eq_none notDigit)])

/-- A number starts with a digit, or with a point before a digit. -/
theorem number_eq_none
    (notDigit : c.isDigit = false)
    (noFraction : c = '.' → ∀ d ∈ rest.head?, d.isDigit = false) :
    number (c :: rest) = none := by
  have noFloat := decimalFloat_eq_none notDigit noFraction
  have noHexFloat : hexFloat (c :: rest) = none :=
    andThen_eq_none (zero_eq_none notDigit) _
  have noImaginary : imaginary (c :: rest) = none := by
    refine longest_eq_none fun reader present => ?_
    obtain ⟨start, among, rfl⟩ := List.mem_map.mp present
    simp only [List.mem_cons, List.not_mem_nil, or_false] at among
    rcases among with rfl | rfl | rfl | rfl
    · exact andThen_eq_none (digits_eq_none notDigit) _
    · exact andThen_eq_none (integer_eq_none notDigit) _
    · exact andThen_eq_none noFloat _
    · exact andThen_eq_none noHexFloat _
  exact longest_eq_none
    (by simp [integer_eq_none notDigit, noFloat, noHexFloat, noImaginary])

end NoNumber

/-! ## Words -/

/-- A blank is no part of a word. -/
theorem isWordPart_eq_false_of_isBlank
    {c : Char}
    (blank : isBlank c = true) :
    Text.isWordPart c = false := by
  have small : c.toNat < 128 := by
    simp only [isBlank, Bool.or_eq_true, beq_iff_eq, Bool.and_eq_true,
      decide_eq_true_eq] at blank
    rcases blank with rfl | ⟨-, high⟩
    · decide
    · exact Nat.lt_of_le_of_lt (show c.toNat ≤ 13 from high) (by decide)
  have all : ∀ code < 128, isBlank (Char.ofNat code) = true →
      Text.isWordPart (Char.ofNat code) = false := by
    decide
  have noPart := all c.toNat small
  rw [Char.ofNat_toNat] at noPart
  exact noPart blank

/-- The start of a word is neither a digit nor a blank nor the start of a comment. -/
theorem plain_of_isWordStart
    {c : Char}
    (start : Text.isWordStart c = true) :
    c.isDigit = false ∧ isBlank c = false ∧ c ≠ '/' := by
  by_cases small : c.toNat < 128
  · have all : ∀ code < 128, Text.isWordStart (Char.ofNat code) = true →
        (Char.ofNat code).isDigit = false ∧ isBlank (Char.ofNat code) = false ∧
          Char.ofNat code ≠ '/' := by
      decide
    have plain := all c.toNat small
    rw [Char.ofNat_toNat] at plain
    exact plain start
  · have above : ∀ d : Char, d.toNat < 128 → ¬c ≤ d := fun d low below =>
      small (Nat.lt_of_le_of_lt (show c.toNat ≤ d.toNat from below) low)
    refine ⟨?_, ?_, ?_⟩
    · simp only [Char.isDigit, Bool.and_eq_false_iff, decide_eq_false_iff_not]
      exact .inr (above '9' (by decide))
    · have notSpace : c ≠ ' ' := fun same => small (same ▸ by decide)
      simp [isBlank, notSpace, above '\r' (by decide)]
    · exact fun same => small (same ▸ by decide)

/-- A text does not go on with a character of a word. -/
def EndsWord (text : List Char) : Prop :=
  ∀ c ∈ text.head?, Text.isWordPart c = false

/-- A text is a single word. -/
def isWord : List Char → Bool
  | [] => false
  | c :: others => Text.isWordStart c && others.all Text.isWordPart

/-- A word is read up to its end. -/
theorem first?_word
    {text rest : List Char}
    (isText : isWord text = true)
    (ends : EndsWord rest) :
    first? (text ++ rest) = some (.word, text.length) := by
  obtain _ | ⟨c, others⟩ := text
  · cases isText
  obtain ⟨start, areParts⟩ := (Bool.and_eq_true _ _).mp isText
  have parts : ∀ d ∈ others, Text.isWordPart d = true := List.all_eq_true.mp areParts
  have nothing : rest.takeWhile Text.isWordPart = [] := by
    cases rest with
    | nil => rfl
    | cons d rest => simp [ends d rfl]
  have taken : (others ++ rest).takeWhile Text.isWordPart = others := by
    rw [List.takeWhile_append_of_pos parts, nothing, List.append_nil]
  simp [first?, readers, word, start, taken, Nat.add_comm]

/-- What starts like no word, number or character literal is a string literal or a
punctuation mark. -/
theorem first?_eq_of_punctuation
    {c : Char}
    {rest : List Char}
    (notWord : Text.isWordStart c = false)
    (notDigit : c.isDigit = false)
    (noFraction : c = '.' → ∀ d ∈ rest.head?, d.isDigit = false)
    (notApostrophe : c ≠ '\'') :
    first? (c :: rest) = (readers.drop 3).findSome? fun reader =>
      (reader.2 (c :: rest)).map fun count => (reader.1, count) := by
  have noRune : rune (c :: rest) = none :=
    andThen_eq_none (oneOf_eq_none (by simpa using notApostrophe) rest) _
  simp [first?, readers, word, notWord, number_eq_none notDigit noFraction, noRune]

/-! ## String literals -/

theorem upTo_append
    {mark : Char}
    {body : List Char}
    (outside : mark ∉ body)
    (rest : List Char) :
    upTo mark (body ++ mark :: rest) = some (body.length + 1) := by
  induction body with
  | nil => simp [upTo]
  | cons c body inductionHypothesis =>
      obtain ⟨other, others⟩ := not_or.mp (mt List.mem_cons.mpr outside)
      simp [upTo, Ne.symm other, inductionHypothesis others, Nat.add_comm]

/-- A literal between back quotes is read up to the next back quote. -/
theorem first?_raw
    {body : List Char}
    (outside : '\x60' ∉ body)
    (rest : List Char) :
    first? ('\x60' :: body ++ '\x60' :: rest) =
      some (.rawString, body.length + 2) := by
  have isRaw : rawString ('\x60' :: (body ++ '\x60' :: rest)) =
      some (body.length + 2) := by
    simp [rawString, andThen, oneOf, one, upTo_append outside]
    omega
  rw [List.cons_append,
    first?_eq_of_punctuation (by decide) (by decide) (by simp) (by decide)]
  simp [readers, isRaw]

/-- A part of a literal between double quotes does not end it. -/
def StaysInside (piece : List Char) : Prop :=
  ∀ tail, tail ≠ [] →
    stringEnd (piece ++ tail) = (stringEnd tail).map (piece.length + ·)

theorem staysInside_nil : StaysInside [] := fun _ _ => by simp

theorem StaysInside.append
    {left right : List Char}
    (leftInside : StaysInside left)
    (rightInside : StaysInside right) :
    StaysInside (left ++ right) := by
  intro tail goesOn
  rw [List.append_assoc, leftInside _ (by simp [goesOn]), rightInside tail goesOn,
    Option.map_map, List.length_append]
  congr 1
  funext count
  exact (Nat.add_assoc _ _ _).symm

theorem staysInside_flatten
    {α : Type}
    {Writes : List Char → α → Prop}
    (inside : ∀ {piece value}, Writes piece value → StaysInside piece)
    {pieces : List (List Char)}
    {values : List α}
    (written : List.Forall₂ Writes pieces values) :
    StaysInside pieces.flatten := by
  induction written with
  | nil => exact staysInside_nil
  | cons writes _ inductionHypothesis => exact (inside writes).append inductionHypothesis

theorem staysInside_singleton
    {c : Char}
    (notQuote : c ≠ '"')
    (notBackslash : c ≠ '\\')
    (notLineFeed : c ≠ '\n') :
    StaysInside [c] := by
  intro tail goesOn
  cases tail with
  | nil => cases goesOn rfl
  | cons d tail => simp [stringEnd, notQuote, notBackslash, notLineFeed]

/-- The letter behind a backslash is skipped with it, whatever it is. -/
theorem staysInside_escape
    {c : Char}
    {piece : List Char}
    (inside : StaysInside piece)
    (fits : ∀ tail, escapeFits c (piece ++ tail) = true) :
    StaysInside ('\\' :: c :: piece) := by
  intro tail goesOn
  have skipped : stringEnd ('\\' :: c :: (piece ++ tail)) =
      (stringEnd (piece ++ tail)).map (2 + ·) := by
    simp [stringEnd, fits tail]
  rw [List.cons_append, List.cons_append, skipped, inside tail goesOn, Option.map_map]
  congr 1
  funext count
  simp only [Function.comp_apply, List.length_cons]
  omega

section Digits

open Text.Quoted

variable {base number : Nat} {digits : List Char}

/-- A digit neither ends a literal nor names a longer escape. -/
theorem digit_ne
    {digit : Char}
    {value : Nat}
    (isDigit : IsDigit digit value) :
    (digit ≠ '"' ∧ digit ≠ '\\' ∧ digit ≠ '\n') ∧
      digit ≠ 'x' ∧ digit ≠ 'u' ∧ digit ≠ 'U' := by
  have all : (lowerDigits ++ upperDigits).Forall fun digit =>
      (digit ≠ '"' ∧ digit ≠ '\\' ∧ digit ≠ '\n') ∧
        digit ≠ 'x' ∧ digit ≠ 'u' ∧ digit ≠ 'U' := by
    decide
  exact List.forall_iff_forall_mem.mp all digit isDigit.mem

theorem staysInside_digits
    {values : List Nat}
    (areDigits : List.Forall₂ IsDigit digits values) :
    StaysInside digits := by
  induction areDigits with
  | nil => exact staysInside_nil
  | cons isDigit _ inductionHypothesis =>
      obtain ⟨⟨notQuote, notBackslash, notLineFeed⟩, -⟩ := digit_ne isDigit
      exact (staysInside_singleton notQuote notBackslash notLineFeed).append
        inductionHypothesis

/-- An escape that needs as many digits in base sixteen as it has stays inside the
literal. -/
theorem staysInside_hexadecimal
    {letter : Char}
    (writes : Writes 16 digits number)
    (fits : ∀ text, escapeFits letter text =
      (Text.hexNumber? digits.length text).isSome) :
    StaysInside ('\\' :: letter :: digits) := by
  obtain ⟨values, areDigits, -⟩ := id writes
  refine staysInside_escape (staysInside_digits areDigits) fun tail => ?_
  rw [fits, hexNumber?_of_writes writes]
  rfl

/-- What is written for a byte stays inside the literal. -/
theorem staysInside_of_spellsByte
    {piece : List Char}
    {byte : UInt8}
    (spells : SpellsByte piece byte) :
    StaysInside piece := by
  cases spells with
  | hexadecimal two writes =>
      exact staysInside_hexadecimal writes fun _ => by simp [escapeFits, two]
  | octal three writes =>
      obtain ⟨values, areDigits, -⟩ := writes
      cases areDigits with
      | nil => cases three
      | cons isDigit areDigits =>
          obtain ⟨-, notX, notSmallU, notU⟩ := digit_ne isDigit
          refine staysInside_escape (staysInside_digits areDigits) fun tail => ?_
          simp [escapeFits, notX, notSmallU, notU]

/-- What is written for a character stays inside the literal. -/
theorem staysInside_of_spellsChar
    {piece : List Char}
    {c : Char}
    (spells : SpellsChar piece c) :
    StaysInside piece := by
  cases spells with
  | itself notQuote notBackslash notLineFeed =>
      exact staysInside_singleton notQuote notBackslash notLineFeed
  | @letter letter _ isEscape =>
      have fits : ∀ entry ∈ letterEscapes, ∀ tail, escapeFits entry.1 tail = true := by
        simp [letterEscapes, escapeFits]
      exact staysInside_escape staysInside_nil (fits _ isEscape)
  | fourDigits four writes =>
      exact staysInside_hexadecimal writes fun _ => by simp [escapeFits, four]
  | eightDigits eight writes =>
      exact staysInside_hexadecimal writes fun _ => by simp [escapeFits, eight]
  | bytes spelled => exact staysInside_flatten staysInside_of_spellsByte spelled

end Digits

/-- A literal between double quotes is read up to the quote behind what it spells. -/
theorem first?_quoted
    {body text : List Char}
    (spells : Text.Quoted.Spells body text)
    (rest : List Char) :
    first? ('"' :: body ++ '"' :: rest) = some (.quotedString, body.length + 2) := by
  obtain ⟨pieces, spelled, rfl⟩ := spells
  have closing : stringEnd ('"' :: rest) = some 1 := by cases rest <;> rfl
  have ends : stringEnd (pieces.flatten ++ '"' :: rest) =
      some (pieces.flatten.length + 1) := by
    rw [staysInside_flatten staysInside_of_spellsChar spelled _ (List.cons_ne_nil _ _),
      closing]
    rfl
  have noRaw : rawString ('"' :: (pieces.flatten ++ '"' :: rest)) = none :=
    andThen_eq_none (oneOf_eq_none (by decide) _) _
  have isQuoted : quotedString ('"' :: (pieces.flatten ++ '"' :: rest)) =
      some (pieces.flatten.length + 2) := by
    simp only [quotedString, andThen, oneOf, one, List.contains_cons, beq_self_eq_true,
      Bool.true_or, if_true, List.drop_succ_cons, List.drop_zero, ends, Option.map_some]
    congr 1
    omega
  rw [List.cons_append,
    first?_eq_of_punctuation (by decide) (by decide) (by simp) (by decide)]
  simp [readers, noRaw, isQuoted]

/-! ## Punctuation marks -/

/-- What starts like no other lexeme is a punctuation mark. -/
theorem first?_mark
    {c : Char}
    {rest : List Char}
    (isMark : symbol (c :: rest) = some 1)
    (notWord : Text.isWordStart c = false)
    (notDigit : c.isDigit = false)
    (noFraction : c = '.' → ∀ d ∈ rest.head?, d.isDigit = false)
    (notQuote : c ∉ ['\'', '\x60', '"']) :
    first? (c :: rest) = some (.symbol, 1) := by
  simp only [List.mem_cons, List.not_mem_nil, or_false, not_or] at notQuote
  obtain ⟨notApostrophe, notBackQuote, notDoubleQuote⟩ := notQuote
  have noRaw : rawString (c :: rest) = none :=
    andThen_eq_none (oneOf_eq_none (by simpa using notBackQuote) rest) _
  have noQuoted : quotedString (c :: rest) = none :=
    andThen_eq_none (oneOf_eq_none (by simpa using notDoubleQuote) rest) _
  rw [first?_eq_of_punctuation notWord notDigit noFraction notApostrophe]
  simp [readers, noRaw, noQuoted, isMark]

/-- A bracket stands for itself whatever follows it. -/
theorem first?_bracket
    {c : Char}
    (isBracket : c ∈ ['(', ')', '[', ']', '\x7b', '\x7d'])
    (rest : List Char) :
    first? (c :: rest) = some (.symbol, 1) := by
  simp only [List.mem_cons, List.not_mem_nil, or_false] at isBracket
  rcases isBracket with rfl | rfl | rfl | rfl | rfl | rfl <;>
    exact first?_mark rfl (by decide) (by decide) (by simp) (by decide)

/-- A star stands for itself before anything but an equals sign. -/
theorem first?_star
    {rest : List Char}
    (noAssignment : ∀ c ∈ rest.head?, c ≠ '=') :
    first? ('*' :: rest) = some (.symbol, 1) := by
  refine first?_mark ?_ (by decide) (by decide) (by simp) (by decide)
  cases rest with
  | nil => rfl
  | cons c rest =>
      have other : c ≠ '=' := noAssignment c rfl
      simp [symbol, symbols, other.symm]

/-- A point stands for itself before the start of a word. -/
theorem first?_point
    {c : Char}
    (start : Text.isWordStart c = true)
    (rest : List Char) :
    first? ('.' :: c :: rest) = some (.symbol, 1) := by
  have notPoint : c ≠ '.' := by
    rintro rfl
    cases start
  have notDigit := (plain_of_isWordStart start).1
  refine first?_mark ?_ (by decide) (by decide) (by simpa using notDigit) (by decide)
  simp [symbol, symbols, notPoint.symm]

end Lexeme
end Go
end EnvTags
