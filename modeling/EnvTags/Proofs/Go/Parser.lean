import EnvTags.Go.Grammar.Place
import EnvTags.Proofs.Go.Phrase

/-!
# Running parsers

What the parts of a parser give decides what the parser gives. A repetition goes on
line by line, and a list between two marks is read with one value for each line.
-/

namespace EnvTags
namespace Go
namespace Parser

variable {α β : Type} {tokens rest : List Token}

/-! ## Sequences and choices -/

@[simp] theorem pure_apply (value : α) : (pure value : Parser α) tokens = some (value, tokens) :=
  rfl

@[simp] theorem failure_apply : (failure : Parser α) tokens = none :=
  rfl

@[simp] theorem bind_apply (parser : Parser α) (next : α → Parser β) :
    (parser >>= next) tokens = (parser tokens).bind fun read => next read.1 read.2 :=
  rfl

@[simp] theorem map_apply (f : α → β) (parser : Parser α) :
    (f <$> parser) tokens = (parser tokens).map fun read => (f read.1, read.2) := by
  cases read : parser tokens <;> simp [Functor.map, StateT.map, read]

@[simp] theorem seqRight_apply (first : Parser α) (second : Parser β) :
    (first *> second) tokens = (first tokens).bind fun read => second read.2 :=
  rfl

@[simp] theorem seqLeft_apply (first : Parser α) (second : Parser β) :
    (first <* second) tokens = (first tokens).bind fun read =>
      (second read.2).map fun next => (read.1, next.2) := by
  change ((first tokens).bind fun read =>
    (second read.2).bind fun next => some (read.1, next.2)) = _
  congr 1
  funext read
  cases second read.2 <;> rfl

@[simp] theorem orElse_apply (first second : Parser α) :
    (first <|> second) tokens = (first tokens).or (second tokens) := by
  change (first tokens).orElse (fun _ => second tokens) = _
  cases first tokens <;> rfl

@[simp] theorem discard_apply (parser : Parser α) :
    discard parser tokens = (parser tokens).map fun read => ((), read.2) :=
  map_apply (fun _ => ()) parser

@[simp] theorem optionally_apply (parser : Parser α) :
    optionally parser tokens =
      ((parser tokens).map fun read => (some read.1, read.2)).or (some (none, tokens)) := by
  simp [optionally]

@[simp] theorem orEmpty_apply (parser : Parser (List α)) :
    orEmpty parser tokens = (parser tokens).or (some ([], tokens)) := by
  simp [orEmpty]

/-! ## Single tokens -/

section Single

variable {first : Token}

@[simp] theorem token_cons (accepts : Token → Bool) :
    token accepts (first :: rest) = if accepts first then some (first, rest) else none :=
  rfl

@[simp] theorem ahead_cons (accepts : Token → Bool) :
    ahead accepts (first :: rest) =
      if accepts first then some ((), first :: rest) else none :=
  rfl

@[simp] theorem symbol_cons (text : String) :
    symbol text (first :: rest) = if first.isSymbol text then some ((), rest) else none := by
  cases isSymbol : first.isSymbol text <;> simp [symbol, isSymbol]

@[simp] theorem keyword_cons (text : String) :
    keyword text (first :: rest) = if first.isWord text then some ((), rest) else none := by
  cases isWord : first.isWord text <;> simp [keyword, isWord]

@[simp] theorem word_cons :
    word (first :: rest) = if first.kind = .word then some (first.text, rest) else none := by
  cases isWord : decide (first.kind = .word) <;> simp_all [word]

@[simp] theorem continues_cons (place : Place) :
    continues place (first :: rest) =
      if !(place.newlineEnds && first.afterNewline) then some ((), first :: rest)
      else none :=
  rfl

end Single

/-! ## Repetition -/

theorem many_of_none
    {parser : Parser α}
    (failed : parser tokens = none) :
    many parser tokens = some ([], tokens) := by
  rw [many, manyFrom, failed]

theorem many_of_some
    {parser : Parser α}
    {value : α}
    {values : List α}
    {behind : List Token}
    (read : parser tokens = some (value, rest))
    (shorter : rest.length < tokens.length)
    (others : many parser rest = some (values, behind)) :
    many parser tokens = some (value :: values, behind) := by
  have read' := Option.some.inj others
  rw [many, manyFrom, read]
  simp [shorter, read']

/-! ## Lines -/

/-- The first token stands on a new line. -/
def StartsLine (tokens : List Token) : Prop :=
  ∃ first ∈ tokens.head?, first.afterNewline = true

theorem startsLine_after
    (phrase : Phrase)
    (lead : String)
    (rest : List Token) :
    StartsLine (phrase.after lead true ++ rest) :=
  ⟨_, rfl, rfl⟩

theorem length_lt_after
    (phrase : Phrase)
    (lead : String)
    (newline : Bool)
    (rest : List Token) :
    rest.length < (phrase.after lead newline ++ rest).length := by
  simp only [Phrase.after, List.cons_append, List.length_cons, List.length_append]
  omega

/-- A line end is taken off the token behind it. -/
@[simp] theorem terminator_after
    (phrase : Phrase)
    (lead : String)
    (rest : List Token) :
    terminator (phrase.after lead true ++ rest) = some ((), phrase.after lead false ++ rest) :=
  rfl

/-- A parser takes a phrase in front of a new line, and answers a value. -/
def TakesLine (parser : Parser α) (phrase : Phrase) (value : α) : Prop :=
  ∀ (lead : String) (newline : Bool) (rest : List Token), StartsLine rest →
    parser (phrase.after lead newline ++ rest) = some (value, rest)

section Lines

variable {ι : Type} {lines : List ι} {phraseOf : ι → Phrase} {valueOf : ι → α}
variable {parser : Parser α} {lead : String}

/-- What stands behind the lines starts a line if the lines do not. -/
theorem startsLine_lines
    (lines : List ι)
    (phraseOf : ι → Phrase)
    (lead : String)
    (starts : StartsLine rest) :
    StartsLine ((lines.map phraseOf).flatMap (fun phrase => phrase.after lead true) ++
      rest) := by
  cases lines with
  | nil => exact starts
  | cons line lines =>
      rw [List.map_cons, List.flatMap_cons, List.append_assoc]
      exact startsLine_after _ _ _

/-- One value is read for each line behind a line end. -/
theorem many_lines
    (lead : String)
    (takes : ∀ line ∈ lines, TakesLine parser (phraseOf line) (valueOf line))
    (starts : StartsLine rest)
    (stops : (terminator *> parser) rest = none) :
    many (terminator *> parser)
        ((lines.map phraseOf).flatMap (fun phrase => phrase.after lead true) ++ rest) =
      some (lines.map valueOf, rest) := by
  induction lines with
  | nil => exact many_of_none stops
  | cons line lines inductionHypothesis =>
      obtain ⟨first, others⟩ := List.forall_mem_cons.mp takes
      rw [List.map_cons, List.flatMap_cons, List.append_assoc]
      refine many_of_some ?_ ?_ (inductionHypothesis others)
      · rw [seqRight_apply, terminator_after, Option.bind_some]
        exact first lead false _ (startsLine_lines lines phraseOf lead starts)
      · exact length_lt_after _ _ _ _

/-- The lines between two marks are read one by one. -/
theorem enclosed_lines
    (opening closing openingLead lead closingLead : String)
    (rest : List Token)
    (takes : ∀ line ∈ lines, TakesLine parser (phraseOf line) (valueOf line))
    (stops : ∀ newline,
      parser (⟨closingLead, newline, .symbol, closing⟩ :: rest) = none) :
    enclosed opening closing terminator parser
        (⟨openingLead, false, .symbol, opening⟩ ::
          ((lines.map phraseOf).flatMap (fun phrase => phrase.after lead true) ++
            ⟨closingLead, true, .symbol, closing⟩ :: rest)) =
      some (lines.map valueOf, rest) := by
  have isOpening : ∀ text, (Token.mk openingLead false .symbol text).isSymbol text =
      true := fun text => by simp [Token.isSymbol]
  have isClosing : ∀ newline, (Token.mk closingLead newline .symbol closing).isSymbol closing =
      true := fun newline => by simp [Token.isSymbol]
  simp only [enclosed, bind_apply, symbol_cons, isOpening, if_true, Option.bind_some]
  cases lines with
  | nil => simp [separated, stops, isClosing]
  | cons line lines =>
      obtain ⟨first, others⟩ := List.forall_mem_cons.mp takes
      have closes : terminator (⟨closingLead, true, .symbol, closing⟩ :: rest) =
          some ((), ⟨closingLead, false, .symbol, closing⟩ :: rest) := rfl
      have starts : StartsLine (⟨closingLead, true, .symbol, closing⟩ :: rest) :=
        ⟨_, rfl, rfl⟩
      have readFirst := first lead true _ (startsLine_lines lines phraseOf lead starts)
      have readOthers := many_lines lead others starts (by simp [closes, stops])
      simp [separated, readFirst, readOthers, closes, isClosing]

/-- Lines that each have a line end behind them are read one by one. The last line end
is taken too. -/
theorem terminated_lines
    {line : ι}
    (firstLead lead lastLead : String)
    (last : Phrase)
    (takes : ∀ other ∈ line :: lines, TakesLine parser (phraseOf other) (valueOf other))
    (stops : parser (last.after lastLead false) = none) :
    terminated parser
        ((phraseOf line).after firstLead false ++
          ((lines.map phraseOf).flatMap (fun phrase => phrase.after lead true) ++
            last.after lastLead true)) =
      some ((line :: lines).map valueOf, last.after lastLead false) := by
  induction lines generalizing line firstLead with
  | nil =>
      have starts : StartsLine (last.after lastLead true) := ⟨_, rfl, rfl⟩
      have ends : terminator (last.after lastLead true) =
          some ((), last.after lastLead false) := rfl
      have read := takes line List.mem_cons_self firstLead false _ starts
      have atEnd : many (parser <* terminator) (last.after lastLead false) =
          some ([], last.after lastLead false) := many_of_none (by simp [stops])
      refine many_of_some ?_ ?_ atEnd
      · simp [read, ends]
      · exact length_lt_after _ _ _ (last.after lastLead true)
  | cons next lines inductionHypothesis =>
      obtain ⟨first, others⟩ := List.forall_mem_cons.mp takes
      rw [List.map_cons, List.flatMap_cons, List.append_assoc]
      refine many_of_some ?_ ?_ (inductionHypothesis lead others)
      · simp [first firstLead false _ (startsLine_after _ _ _)]
      · exact length_lt_after _ _ _ ((phraseOf next).after lead true ++ _)

end Lines

end Parser
end Go
end EnvTags
