import EnvTags.Proofs.Text.Spelling
import EnvTags.Tag.Pair

/-!
# Rows of pairs

The pairs of a tag are written one behind the other, with spaces in front of them.
No quote of a value that is spelled as the body of a literal could end the value,
so the pairs are read back as they were written, whatever text stands behind them.
-/

namespace EnvTags
namespace Tag

/-! ## Values -/

/-- A value can stand between quotes: a quote or a backslash in it stands behind a
backslash, and no backslash is the last one of its characters. -/
inductive Encloses : List Char → Prop
  | nil : Encloses []
  /-- A character that is neither a quote nor a backslash. -/
  | plain
      {c : Char}
      {value : List Char}
      (notQuote : c ≠ '"')
      (notBackslash : c ≠ '\\')
      (others : Encloses value) :
      Encloses (c :: value)
  /-- A backslash and the character that it hides. -/
  | hidden
      {c : Char}
      {value : List Char}
      (others : Encloses value) :
      Encloses ('\\' :: c :: value)

theorem Encloses.append
    {left right : List Char}
    (leftEncloses : Encloses left)
    (rightEncloses : Encloses right) :
    Encloses (left ++ right) := by
  induction leftEncloses with
  | nil => exact rightEncloses
  | plain notQuote notBackslash _ inductionHypothesis =>
      exact .plain notQuote notBackslash inductionHypothesis
  | hidden _ inductionHypothesis => exact .hidden inductionHypothesis

theorem closeQuote_cons_quote (text : List Char) :
    closeQuote ('"' :: text) = some ([], text) := by
  cases text <;> rfl

/-- The closing quote is the one behind the value. -/
theorem Encloses.closeQuote_eq
    {value : List Char}
    (encloses : Encloses value)
    (rest : List Char) :
    closeQuote (value ++ '"' :: rest) = some (value, rest) := by
  induction encloses with
  | nil => exact closeQuote_cons_quote rest
  | @plain c value notQuote notBackslash _ inductionHypothesis =>
      obtain ⟨d, text, behind⟩ : ∃ d text, value ++ '"' :: rest = d :: text :=
        List.exists_cons_of_ne_nil (by simp)
      rw [behind] at inductionHypothesis
      rw [List.cons_append, behind, closeQuote, if_neg notQuote,
        if_neg notBackslash, inductionHypothesis]
      rfl
  | @hidden c value _ inductionHypothesis =>
      rw [List.cons_append, List.cons_append, closeQuote, if_neg (by decide),
        if_pos rfl, inductionHypothesis]
      rfl

theorem encloses_of_forall
    {text : List Char}
    (plain : ∀ c ∈ text, c ≠ '"' ∧ c ≠ '\\') :
    Encloses text := by
  induction text with
  | nil => exact .nil
  | cons c text inductionHypothesis =>
      obtain ⟨first, others⟩ := List.forall_mem_cons.mp plain
      exact .plain first.1 first.2 (inductionHypothesis others)

/-- Pieces that can stand between quotes can do so one behind the other. -/
theorem encloses_flatten
    {α : Type}
    {spells : List Char → α → Prop}
    (each : ∀ {piece : List Char} {item : α}, spells piece item → Encloses piece)
    {pieces : List (List Char)}
    {items : List α}
    (spelled : List.Forall₂ spells pieces items) :
    Encloses pieces.flatten := by
  induction spelled with
  | nil => exact .nil
  | cons first _ inductionHypothesis => exact (each first).append inductionHypothesis

/-- Digits are neither quotes nor backslashes. -/
theorem plain_of_writes
    {base number : Nat}
    {digits : List Char}
    (writes : Text.Quoted.Writes base digits number) :
    ∀ c ∈ digits, c ≠ '"' ∧ c ≠ '\\' := by
  obtain ⟨values, areDigits, -, -⟩ := writes
  induction areDigits with
  | nil => simp
  | cons isDigit _ inductionHypothesis =>
      have allPlain : ∀ digit ∈ Text.Quoted.lowerDigits ++ Text.Quoted.upperDigits,
          digit ≠ '"' ∧ digit ≠ '\\' :=
        List.forall_iff_forall_mem.mp (by decide)
      exact List.forall_mem_cons.mpr ⟨allPlain _ isDigit.mem, inductionHypothesis⟩

theorem encloses_of_spellsByte
    {piece : List Char}
    {byte : UInt8}
    (spells : Text.Quoted.SpellsByte piece byte) :
    Encloses piece := by
  cases spells with
  | hexadecimal _ writes =>
      exact .hidden (encloses_of_forall (plain_of_writes writes))
  | @octal digits byte three writes =>
      cases digits with
      | nil => cases three
      | cons digit digits =>
          have others := (List.forall_mem_cons.mp (plain_of_writes writes)).2
          exact .hidden (encloses_of_forall others)

theorem encloses_of_spellsChar
    {piece : List Char}
    {c : Char}
    (spells : Text.Quoted.SpellsChar piece c) :
    Encloses piece := by
  cases spells with
  | itself notQuote notBackslash _ => exact .plain notQuote notBackslash .nil
  | letter _ => exact .hidden .nil
  | fourDigits _ writes =>
      exact .hidden (encloses_of_forall (plain_of_writes writes))
  | eightDigits _ writes =>
      exact .hidden (encloses_of_forall (plain_of_writes writes))
  | bytes spelled => exact encloses_flatten encloses_of_spellsByte spelled

/-- What is spelled as the body of a literal can stand between quotes. -/
theorem encloses_of_spells
    {body text : List Char}
    (spells : Text.Quoted.Spells body text) :
    Encloses body := by
  obtain ⟨pieces, spelled, rfl⟩ := spells
  exact encloses_flatten encloses_of_spellsChar spelled

/-! ## Pairs -/

/-- The text of a pair. -/
def Pair.written (pair : Pair) : List Char :=
  pair.name ++ ':' :: '"' :: pair.value ++ ['"']

/-- A pair with a name and a value that can be written. -/
structure Pair.IsWellFormed (pair : Pair) : Prop where
  hasName : pair.name ≠ []
  isName : ∀ c ∈ pair.name, isNameChar c = true
  encloses : Encloses pair.value

/-- The text of some pairs, each behind a number of spaces. -/
def row (placed : List (Nat × Pair)) : List Char :=
  placed.flatMap fun place => List.replicate place.1 ' ' ++ place.2.written

theorem pair?_written
    {pair : Pair}
    (wellFormed : pair.IsWellFormed)
    (rest : List Char) :
    pair? (pair.written ++ rest) = some (pair, rest) := by
  have whole : pair.written ++ rest =
      pair.name ++ ':' :: '"' :: (pair.value ++ '"' :: rest) := by
    simp [Pair.written]
  have taken : (pair.written ++ rest).takeWhile isNameChar = pair.name := by
    rw [whole, List.takeWhile_append_of_pos wellFormed.isName,
      List.takeWhile_cons_of_neg (by decide), List.append_nil]
  have left : (pair.written ++ rest).dropWhile isNameChar =
      ':' :: '"' :: (pair.value ++ '"' :: rest) := by
    rw [whole, List.dropWhile_append_of_pos wellFormed.isName,
      List.dropWhile_cons_of_neg (by decide)]
  have named : pair.name.isEmpty = false := by
    simpa using wellFormed.hasName
  rw [pair?, taken, left, named]
  simp [wellFormed.encloses.closeQuote_eq]

/-- The spaces in front of a pair end where the pair starts. -/
theorem dropWhile_written
    {pair : Pair}
    (wellFormed : pair.IsWellFormed)
    (spaces : Nat)
    (rest : List Char) :
    (List.replicate spaces ' ' ++ (pair.written ++ rest)).dropWhile (· == ' ') =
      pair.written ++ rest := by
  obtain ⟨c, name, isName⟩ := List.exists_cons_of_ne_nil wellFormed.hasName
  have notSpace : c ≠ ' ' := by
    rintro rfl
    have legal := wellFormed.isName ' ' (by simp [isName])
    exact absurd legal (by decide)
  rw [List.dropWhile_append_of_pos (by simp), Pair.written, isName, List.cons_append,
    List.cons_append, List.cons_append,
    List.dropWhile_cons_of_neg (by simpa using notSpace)]

theorem pairs_written
    {pair : Pair}
    (wellFormed : pair.IsWellFormed)
    (spaces : Nat)
    (rest : List Char) :
    pairs (List.replicate spaces ' ' ++ (pair.written ++ rest)) =
      pair :: pairs rest := by
  have read : pair?
      ((List.replicate spaces ' ' ++ (pair.written ++ rest)).dropWhile (· == ' ')) =
        some (pair, rest) := by
    rw [dropWhile_written wellFormed, pair?_written wellFormed]
  rw [pairs]
  split
  · rename_i unread
    cases unread.symm.trans read
  · rename_i other left found
    obtain ⟨rfl, rfl⟩ := Prod.mk.inj (Option.some.inj (found.symm.trans read))
    rfl

/-- Pairs in a row are read one after the other. -/
theorem pairs_row_append
    {placed : List (Nat × Pair)}
    (wellFormed : ∀ place ∈ placed, place.2.IsWellFormed)
    (rest : List Char) :
    pairs (row placed ++ rest) = placed.map Prod.snd ++ pairs rest := by
  induction placed with
  | nil => rfl
  | cons place placed inductionHypothesis =>
      obtain ⟨first, others⟩ := List.forall_mem_cons.mp wellFormed
      rw [row, List.flatMap_cons, ← row, List.append_assoc, List.append_assoc,
        pairs_written first, inductionHypothesis others]
      rfl

/-- The value under a key is found behind pairs with other names. -/
theorem lookup_written
    {key : String}
    {pair : Pair}
    {before : List (Nat × Pair)}
    (isKey : pair.name = key.toList)
    (wellFormed : pair.IsWellFormed)
    (others : ∀ place ∈ before,
      place.2.IsWellFormed ∧ place.2.name ≠ key.toList)
    (spaces : Nat)
    (after : List Char) :
    lookup (String.ofList (row (before ++ [(spaces, pair)]) ++ after)) key =
      Text.Quoted.decode pair.value := by
  have allWellFormed : ∀ place ∈ before ++ [(spaces, pair)],
      place.2.IsWellFormed := by
    rintro place inside
    rcases List.mem_append.mp inside with inBefore | isLast
    · exact (others place inBefore).1
    · obtain rfl := List.mem_singleton.mp isLast
      exact wellFormed
  have noneBefore :
      (before.map Prod.snd).find? (fun other => other.name == key.toList) =
        none := by
    rw [List.find?_eq_none]
    intro other inside
    obtain ⟨place, inBefore, rfl⟩ := List.mem_map.mp inside
    simpa using (others place inBefore).2
  rw [lookup, String.toList_ofList, pairs_row_append allWellFormed, List.map_append,
    List.append_assoc, List.find?_append, noneBefore]
  simp [isKey]

end Tag
end EnvTags
