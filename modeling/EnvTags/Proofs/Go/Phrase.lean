import Mathlib.Data.List.Flatten
import EnvTags.Go.Scan
import EnvTags.Proofs.Go.Lexeme

/-!
# Phrases

A phrase is a row of tokens that can stand behind any blanks. A text is read as a
phrase if it is scanned as the tokens of the phrase, whatever blanks stand before it
and in front of any text that does not go on with it. Texts that are put together are
read as the phrases that are put together.
-/

namespace EnvTags
namespace Go

/-! ## Blanks -/

namespace Token

/-- Some blanks, with or without a line end among them. -/
def IsLead (lead : List Char) (newline : Bool) : Prop :=
  lead.all Lexeme.isBlank = true ∧ lead.any (· == '\n') = newline

theorem skipLead_of_plain
    {c : Char}
    (notBlank : Lexeme.isBlank c = false)
    (notSlash : c ≠ '/')
    (rest : List Char) :
    skipLead (c :: rest) = ⟨[], false, c :: rest⟩ := by
  have noTrivia : Lexeme.trivia (c :: rest) = none := by
    cases rest <;> simp [Lexeme.trivia, notBlank, notSlash]
  rw [skipLead, noTrivia]

theorem skipLead_append_of_isBlank
    {lead : List Char}
    (areBlank : lead.all Lexeme.isBlank = true)
    (text : List Char) :
    skipLead (lead ++ text) =
      ⟨lead ++ (skipLead text).skipped, lead.any (· == '\n') || (skipLead text).hasNewline,
        (skipLead text).rest⟩ := by
  induction lead with
  | nil => simp
  | cons c lead inductionHypothesis =>
      rw [List.all_cons, Bool.and_eq_true] at areBlank
      obtain ⟨first, others⟩ := areBlank
      have isTrivia : Lexeme.trivia (c :: (lead ++ text)) = some 1 := by
        cases lead ++ text <;> simp [Lexeme.trivia, first]
      rw [List.cons_append, skipLead, isTrivia]
      simp [inductionHypothesis others, Bool.or_assoc]

/-- The lexeme behind some blanks is the first token. -/
theorem scan_lexeme
    {lead others rest : List Char}
    {newline : Bool}
    {c : Char}
    {kind : Kind}
    (isLead : IsLead lead newline)
    (notBlank : Lexeme.isBlank c = false)
    (notSlash : c ≠ '/')
    (isLexeme : Lexeme.first? (c :: others ++ rest) = some (kind, (c :: others).length)) :
    scan (lead ++ (c :: others ++ rest)) = (scan rest).map fun tokens =>
      ⟨String.ofList lead, newline, kind, String.ofList (c :: others)⟩ :: tokens := by
  obtain ⟨areBlank, rfl⟩ := isLead
  have skipped : skipLead (lead ++ (c :: others ++ rest)) =
      ⟨lead, lead.any (· == '\n'), c :: (others ++ rest)⟩ := by
    rw [skipLead_append_of_isBlank areBlank, List.cons_append,
      skipLead_of_plain notBlank notSlash]
    simp
  rw [scan]
  split
  · rename_i atEnd
    rw [skipped] at atEnd
    cases atEnd
  · rename_i first behind isRest
    rw [skipped] at isRest
    obtain ⟨rfl, rfl⟩ := List.cons.inj isRest
    rw [← List.cons_append, isLexeme, skipped]
    simp

/-- Behind blanks alone there is the end of the text. -/
theorem scan_lead
    {lead : List Char}
    {newline : Bool}
    (isLead : IsLead lead newline) :
    scan lead = some [⟨String.ofList lead, newline, .finish, ""⟩] := by
  obtain ⟨areBlank, rfl⟩ := isLead
  have skipped : skipLead lead = ⟨lead, lead.any (· == '\n'), []⟩ := by
    simpa [skipLead] using skipLead_append_of_isBlank areBlank []
  rw [scan]
  split
  · rw [skipped]
  · rename_i isRest
    rw [skipped] at isRest
    cases isRest

end Token

/-! ## Tokens behind blanks -/

/-- A row of tokens, where it is left open what stands before the first one. -/
structure Phrase where
  /-- The kind of the first token. -/
  kind : Kind
  /-- The first token, as it is written. -/
  text : String
  /-- The other tokens. -/
  others : List Token

namespace Phrase

/-- The tokens of a phrase behind some blanks. -/
def after (phrase : Phrase) (lead : String) (newline : Bool) : List Token :=
  ⟨lead, newline, phrase.kind, phrase.text⟩ :: phrase.others

/-- A phrase of one token. -/
def single (kind : Kind) (text : String) : Phrase :=
  ⟨kind, text, []⟩

/-- A phrase with another one behind it. -/
def followedBy
    (phrase : Phrase)
    (lead : String)
    (newline : Bool)
    (next : Phrase) : Phrase :=
  { phrase with others := phrase.others ++ next.after lead newline }

/-- A phrase with other ones behind it, each on a line of its own. -/
def followedByLines (phrase : Phrase) (lead : String) (lines : List Phrase) : Phrase :=
  { phrase with others := phrase.others ++ lines.flatMap fun line => line.after lead true }

@[simp] theorem after_single (kind : Kind) (text lead : String) (newline : Bool) :
    (single kind text).after lead newline = [⟨lead, newline, kind, text⟩] :=
  rfl

@[simp] theorem after_followedBy
    (phrase next : Phrase)
    (lead nextLead : String)
    (newline nextNewline : Bool) :
    (phrase.followedBy nextLead nextNewline next).after lead newline =
      phrase.after lead newline ++ next.after nextLead nextNewline :=
  rfl

@[simp] theorem after_followedByLines
    (phrase : Phrase)
    (lines : List Phrase)
    (lead lineLead : String)
    (newline : Bool) :
    (phrase.followedByLines lineLead lines).after lead newline =
      phrase.after lead newline ++ lines.flatMap fun line => line.after lineLead true :=
  rfl

theorem length_le_followedByLines
    {phrase line : Phrase}
    {lines : List Phrase}
    (inside : line ∈ lines)
    (lead lineLead : String)
    (newline : Bool) :
    (line.after lineLead true).length ≤
      ((phrase.followedByLines lineLead lines).after lead newline).length := by
  have sublist := (List.singleton_sublist.mpr inside).flatMap fun line =>
    line.after lineLead true
  rw [List.flatMap_singleton] at sublist
  have := sublist.length_le
  simp only [after_followedByLines, List.length_append]
  omega

/-! ## Reading -/

/-- A text is read as a phrase behind any blanks and in front of what may follow
it. -/
def Reads (Follows : List Char → Prop) (text : String) (phrase : Phrase) : Prop :=
  ∀ (lead : String) (newline : Bool) (rest : List Char),
    Token.IsLead lead.toList newline → Follows rest →
      Token.scan (lead.toList ++ (text.toList ++ rest)) =
        (Token.scan rest).map (phrase.after lead newline ++ ·)

/-- Anything may follow. -/
def Anything (_ : List Char) : Prop :=
  True

theorem reads_lexeme
    {Follows : List Char → Prop}
    {text : String}
    {c : Char}
    {others : List Char}
    {kind : Kind}
    (isText : text.toList = c :: others)
    (notBlank : Lexeme.isBlank c = false)
    (notSlash : c ≠ '/')
    (isLexeme : ∀ rest, Follows rest →
      Lexeme.first? (text.toList ++ rest) = some (kind, text.toList.length)) :
    Reads Follows text (single kind text) := by
  intro lead newline rest isLead follows
  have read := isLexeme rest follows
  rw [isText] at read ⊢
  rw [Token.scan_lexeme isLead notBlank notSlash read, ← isText]
  simp

theorem reads_word
    (text : String)
    (isWord : Lexeme.isWord text.toList = true) :
    Reads Lexeme.EndsWord text (single .word text) := by
  cases isText : text.toList with
  | nil =>
      rw [isText] at isWord
      cases isWord
  | cons c others =>
      have start : Text.isWordStart c = true := by
        rw [isText] at isWord
        exact ((Bool.and_eq_true _ _).mp isWord).1
      obtain ⟨-, notBlank, notSlash⟩ := Lexeme.plain_of_isWordStart start
      exact reads_lexeme isText notBlank notSlash fun rest ends =>
        Lexeme.first?_word isWord ends

theorem reads_bracket
    (text : String)
    (isBracket : text ∈ ["(", ")", "[", "]", "\x7b", "\x7d"]) :
    Reads Anything text (single .symbol text) := by
  simp only [List.mem_cons, List.not_mem_nil, or_false] at isBracket
  rcases isBracket with rfl | rfl | rfl | rfl | rfl | rfl <;>
    exact reads_lexeme rfl (by decide) (by decide) fun rest _ =>
      Lexeme.first?_bracket (by decide) rest

/-- What stands behind a star is not the rest of an assignment. -/
def NoAssignment (text : List Char) : Prop :=
  ∀ c ∈ text.head?, c ≠ '='

theorem reads_star : Reads NoAssignment "*" (single .symbol "*") :=
  reads_lexeme rfl (by decide) (by decide) fun _ other => Lexeme.first?_star other

/-- A word stands next. -/
def StartsWord (text : List Char) : Prop :=
  ∃ c ∈ text.head?, Text.isWordStart c = true

theorem reads_point : Reads StartsWord "." (single .symbol ".") := by
  refine reads_lexeme rfl (by decide) (by decide) ?_
  rintro (_ | ⟨c, rest⟩) ⟨d, isFirst, start⟩
  · cases isFirst
  · obtain rfl := Option.some.inj isFirst
    exact Lexeme.first?_point start rest

section Composition

variable {Follows FollowsNext : List Char → Prop}
variable {text nextText lead : String} {phrase next : Phrase} {newline : Bool}

theorem Reads.followedBy
    (reads : Reads Follows text phrase)
    (nextReads : Reads FollowsNext nextText next)
    (isLead : Token.IsLead lead.toList newline)
    (fits : ∀ rest, FollowsNext rest → Follows (lead.toList ++ (nextText.toList ++ rest))) :
    Reads FollowsNext (text ++ lead ++ nextText) (phrase.followedBy lead newline next) := by
  intro firstLead firstNewline rest isFirstLead follows
  have scanned := nextReads lead newline rest isLead follows
  simp only [String.toList_append, List.append_assoc]
  rw [reads firstLead firstNewline _ isFirstLead (fits rest follows), scanned,
    Option.map_map]
  simp [Function.comp_def]

/-- The next phrase stands right behind the first one. -/
theorem Reads.joined
    (reads : Reads Follows text phrase)
    (nextReads : Reads FollowsNext nextText next)
    (fits : ∀ rest, FollowsNext rest → Follows (nextText.toList ++ rest)) :
    Reads FollowsNext (text ++ nextText) (phrase.followedBy "" false next) := by
  have isLead : Token.IsLead "".toList false := ⟨by simp, rfl⟩
  simpa using reads.followedBy nextReads isLead (by simpa using fits)

/-- Fewer texts may follow. -/
theorem Reads.mono
    (reads : Reads Follows text phrase)
    (fits : ∀ rest, FollowsNext rest → Follows rest) :
    Reads FollowsNext text phrase :=
  fun lead newline rest isLead follows => reads lead newline rest isLead (fits rest follows)

/-- No word goes on over blanks. -/
theorem endsWord_of_isLead
    {lead : List Char}
    (isLead : Token.IsLead lead newline)
    (nonempty : lead ≠ [])
    (rest : List Char) :
    Lexeme.EndsWord (lead ++ rest) := by
  cases lead with
  | nil => cases nonempty rfl
  | cons c lead =>
      intro d isFirst
      obtain rfl := Option.some.inj isFirst
      have isBlank := List.all_eq_true.mp isLead.1 c List.mem_cons_self
      exact Lexeme.isWordPart_eq_false_of_isBlank isBlank

/-- Blanks stand between the phrases. -/
theorem Reads.apart
    (reads : Reads Lexeme.EndsWord text phrase)
    (lead : String)
    (nextReads : Reads FollowsNext nextText next)
    (isLead : Token.IsLead lead.toList newline)
    (nonempty : lead.toList ≠ []) :
    Reads FollowsNext (text ++ lead ++ nextText) (phrase.followedBy lead newline next) :=
  reads.followedBy nextReads isLead fun _ _ => endsWord_of_isLead isLead nonempty _

/-- A single blank stands between the phrases. -/
theorem Reads.spaced
    (reads : Reads Lexeme.EndsWord text phrase)
    (nextReads : Reads FollowsNext nextText next) :
    Reads FollowsNext (text ++ " " ++ nextText) (phrase.followedBy " " false next) :=
  reads.apart " " nextReads ⟨by decide, by decide⟩ (by decide)

/-- Each of the lines starts behind the same line end and blanks. -/
theorem Reads.followedByLines
    {ι : Type}
    {textOf : ι → String}
    {phraseOf : ι → Phrase}
    {lines : List ι}
    (reads : Reads Lexeme.EndsWord text phrase)
    (lead : String)
    (each : ∀ line ∈ lines, Reads Lexeme.EndsWord (textOf line) (phraseOf line))
    (isLead : Token.IsLead lead.toList true) :
    Reads Lexeme.EndsWord (text ++ String.join (lines.map fun line => lead ++ textOf line))
      (phrase.followedByLines lead (lines.map phraseOf)) := by
  induction lines generalizing text phrase with
  | nil => simpa [Phrase.followedByLines] using reads
  | cons line lines inductionHypothesis =>
      obtain ⟨first, others⟩ := List.forall_mem_cons.mp each
      have nonempty : lead.toList ≠ [] := by
        intro isEmpty
        rw [isEmpty] at isLead
        cases isLead.2
      have behind := reads.apart lead first isLead nonempty
      have whole := inductionHypothesis behind others
      simpa [Phrase.followedByLines, Phrase.followedBy, String.append_assoc] using whole

end Composition

end Phrase
end Go
end EnvTags
