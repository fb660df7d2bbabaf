import EnvTags.Go.Grammar.SourceFile
import EnvTags.Proofs.Go.Parser
import EnvTags.Proofs.Go.Written

/-!
# Written names and types

The text of a type is read as a phrase, and the rules for types take the tokens of
that phrase and leave the ones behind it. Rules of the depth of the type suffice.
-/

namespace EnvTags
namespace Go

namespace Phrase

theorem endsWord_cons
    {c : Char}
    (outside : Text.isWordPart c = false)
    (rest : List Char) :
    Lexeme.EndsWord (c :: rest) := by
  intro d isFirst
  obtain rfl := Option.some.inj isFirst
  exact outside

theorem startsWord_of_isWord
    {text : List Char}
    (isWord : Lexeme.isWord text = true)
    (rest : List Char) :
    StartsWord (text ++ rest) := by
  cases text with
  | nil => cases isWord
  | cons c text => exact ⟨c, rfl, ((Bool.and_eq_true _ _).mp isWord).1⟩

theorem noAssignment_of_startsWord
    {text : List Char}
    (starts : StartsWord text) :
    NoAssignment text := by
  rintro _ isFirst rfl
  obtain ⟨c, isStart, start⟩ := starts
  obtain rfl := Option.some.inj (isStart.symm.trans isFirst)
  cases start

/-- The text of a phrase, from its first token on. -/
def written (phrase : Phrase) : String :=
  Token.sourceText (phrase.after "" false)

theorem sourceText_after (phrase : Phrase) (lead : String) (newline : Bool) :
    Token.sourceText (phrase.after lead newline) = phrase.written :=
  rfl

@[simp] theorem written_single (kind : Kind) (text : String) :
    (single kind text).written = text :=
  rfl

@[simp] theorem written_followedBy
    (phrase next : Phrase)
    (lead : String)
    (newline : Bool) :
    (phrase.followedBy lead newline next).written =
      phrase.written ++ lead ++ next.written := by
  have prepend : ∀ (tokens : List Token) (start text : String),
      tokens.foldl (fun text next => text ++ next.lead ++ next.text) (start ++ text) =
        start ++ tokens.foldl (fun text next => text ++ next.lead ++ next.text) text := by
    intro tokens
    induction tokens with
    | nil => exact fun _ _ => rfl
    | cons token tokens inductionHypothesis =>
        intro start text
        have regrouped : start ++ text ++ token.lead ++ token.text =
            start ++ (text ++ token.lead ++ token.text) := by
          simp only [String.append_assoc]
        rw [List.foldl_cons, List.foldl_cons, regrouped]
        exact inductionHypothesis start _
  change (phrase.others ++ ⟨lead, newline, next.kind, next.text⟩ :: next.others).foldl
    (fun text next => text ++ next.lead ++ next.text) phrase.text = _
  rw [List.foldl_append, List.foldl_cons, prepend]
  rfl

end Phrase

namespace Written

open Phrase
open EnvTags.Go.Parser

/-! ## Texts -/

def Identifier.phrase (name : Identifier) : Phrase :=
  single .word name.text

def TypeName.phrase : TypeName → Phrase
  | plain name => name.phrase
  | qualified package name =>
      (package.phrase.followedBy "" false (single .symbol ".")).followedBy "" false name.phrase

def FieldType.phrase : FieldType → Phrase
  | named name => name.phrase
  | pointer name => (single .symbol "*").followedBy "" false name.phrase
  | slice element =>
      ((single .symbol "[").followedBy "" false (single .symbol "]")).followedBy "" false
        element.phrase
  | map key value =>
      ((((single .word "map").followedBy "" false (single .symbol "[")).followedBy "" false
        key.phrase).followedBy "" false (single .symbol "]")).followedBy "" false value.phrase

theorem Identifier.reads (name : Identifier) :
    Reads Lexeme.EndsWord name.text name.phrase :=
  reads_word name.text name.isWord

theorem TypeName.startsWord (name : TypeName) (rest : List Char) :
    StartsWord (name.text.toList ++ rest) := by
  cases name with
  | plain name => exact startsWord_of_isWord name.isWord rest
  | qualified package name =>
      simpa [text] using startsWord_of_isWord package.isWord ('.' :: (name.text.toList ++ rest))

theorem TypeName.reads (name : TypeName) :
    Reads Lexeme.EndsWord name.text name.phrase := by
  cases name with
  | plain name => exact name.reads
  | qualified package name =>
      refine (package.reads.joined reads_point ?_).joined name.reads ?_
      · exact fun rest _ => endsWord_cons (by decide) rest
      · exact fun rest _ => startsWord_of_isWord name.isWord rest

theorem FieldType.reads (type : FieldType) :
    Reads Lexeme.EndsWord type.text type.phrase := by
  induction type with
  | named name => exact name.reads
  | pointer name =>
      exact reads_star.joined name.reads fun rest _ =>
        noAssignment_of_startsWord (name.startsWord rest)
  | slice element inductionHypothesis =>
      have brackets := (reads_bracket "[" (by decide)).joined
        (reads_bracket "]" (by decide)) fun _ _ => trivial
      exact brackets.joined inductionHypothesis fun _ _ => trivial
  | map key value keyReads valueReads =>
      have word : Reads Lexeme.EndsWord "map" (single .word "map") := reads_word "map" (by decide)
      have opening := word.joined (reads_bracket "[" (by decide)) fun rest _ =>
        endsWord_cons (by decide) rest
      have closing := (opening.joined keyReads fun _ _ => trivial).joined
        (reads_bracket "]" (by decide)) fun rest _ =>
          endsWord_cons (by decide) rest
      exact closing.joined valueReads fun _ _ => trivial

theorem TypeName.written_phrase (name : TypeName) : name.phrase.written = name.text := by
  cases name <;> simp [phrase, text, Identifier.phrase]

theorem FieldType.written_phrase (type : FieldType) : type.phrase.written = type.text := by
  induction type with
  | named name => exact name.written_phrase
  | pointer name => simp [phrase, text, name.written_phrase]
  | slice element inductionHypothesis =>
      simp only [phrase, text, written_followedBy, written_single, inductionHypothesis,
        String.append_empty]
      rfl
  | map key value keyWritten valueWritten =>
      simp only [phrase, text, written_followedBy, written_single, keyWritten, valueWritten,
        String.append_empty]
      rfl

/-! ## Rules -/

/-- With one call more, a rule is read by the rules that it calls. -/
theorem type_ofDepth (calls : Nat) :
    (Rules.ofDepth (calls + 1)).type = (Rules.ofDepth calls).parseType :=
  rfl

theorem statement_ofDepth (calls : Nat) :
    (Rules.ofDepth (calls + 1)).statement = (Rules.ofDepth calls).parseStatement :=
  rfl

theorem expression_ofDepth (calls : Nat) :
    (Rules.ofDepth (calls + 1)).expression = (Rules.ofDepth calls).parseExpression :=
  rfl

/-- How deep the rules for types call each other for a type. -/
def FieldType.depth : FieldType → Nat
  | named _ => 1
  | pointer _ => 2
  | slice element => element.depth + 1
  | map key value => max key.depth value.depth + 1

/-- Each call of a rule has a token of its own. -/
theorem FieldType.depth_le_length
    (type : FieldType)
    (lead : String)
    (newline : Bool) :
    type.depth ≤ (type.phrase.after lead newline).length := by
  induction type generalizing lead newline with
  | named name => simp [depth, after]
  | pointer name =>
      simp only [depth, phrase, after, followedBy, List.length_cons, List.length_append]
      omega
  | slice element inductionHypothesis =>
      have := inductionHypothesis "" false
      simp only [depth, phrase, after_followedBy, List.length_append, after_single,
        List.length_singleton]
      omega
  | map key value keyLength valueLength =>
      have := keyLength "" false
      have := valueLength "" false
      simp only [depth, phrase, after_followedBy, List.length_append, after_single,
        List.length_singleton]
      omega

/-- The tree of a type. -/
def FieldType.node : FieldType → Node
  | named _ => .group []
  | pointer _ => .group [.group []]
  | slice element => .group [element.node]
  | map key value => .group [key.node, value.node]

/-- No type in a place goes on with the first token. -/
def EndsType (place : Place) (rest : List Token) : Prop :=
  ∀ first ∈ rest.head?, (place.newlineEnds && first.afterNewline) = true ∨
    first.isSymbol "." = false ∧ first.isSymbol "[" = false

section Names

variable {rules : Rules} {place : Place} {lead : String} {rest : List Token}

theorem typeArguments_of_endsType
    (ends : EndsType place rest) :
    orEmpty (continues place *> rules.typeArguments) rest = some ([], rest) := by
  cases rest with
  | nil => rfl
  | cons first rest =>
      rcases ends first rfl with isEnd | ⟨-, noBracket⟩
      · simp [isEnd]
      · cases goesOn : place.newlineEnds && first.afterNewline <;>
          simp [goesOn, Rules.typeArguments, noBracket]

theorem namedTypeRest_plain
    (ends : EndsType place rest) :
    rules.namedTypeRest place rest = some (.group [], rest) := by
  have noName : (symbolOn place "." *> word) rest = none := by
    cases rest with
    | nil => rfl
    | cons first rest =>
        rcases ends first rfl with isEnd | ⟨noPoint, -⟩
        · simp [symbolOn, isEnd]
        · cases goesOn : place.newlineEnds && first.afterNewline <;>
            simp [symbolOn, goesOn, noPoint]
  simp only [Rules.namedTypeRest, bind_apply, optionally_apply, noName, Option.map_none,
    Option.none_or, Option.bind_some, typeArguments_of_endsType ends, pure_apply]

theorem namedTypeRest_qualified
    (name : Identifier)
    (ends : EndsType place rest) :
    rules.namedTypeRest place
        (⟨"", false, .symbol, "."⟩ :: ⟨"", false, .word, name.text⟩ :: rest) =
      some (.group [], rest) := by
  have point : (symbolOn place "." *> word)
      (⟨"", false, .symbol, "."⟩ :: ⟨"", false, .word, name.text⟩ :: rest) =
        some (name.text, rest) := by
    simp [symbolOn, Token.isSymbol]
  simp only [Rules.namedTypeRest, bind_apply, optionally_apply, point, Option.map_some,
    Option.some_or, Option.bind_some, typeArguments_of_endsType ends, pure_apply]

theorem typeRest_name
    (name : Identifier)
    (newline : Bool) :
    rules.typeRest place ⟨lead, newline, .word, name.text⟩ = rules.namedTypeRest place := by
  have notKeyword : ∀ {word}, name.text = word → word ∉ keywords := fun same =>
    same ▸ name.notKeyword
  unfold Rules.typeRest
  -- The words that start another type are keywords, and a word is no mark.
  split <;> first
    | rfl
    | (rename_i isText; exact absurd (by decide) (notKeyword isText))
    | (rename_i isMark _; cases isMark)
    | (rename_i noWord _ _ _ _ _ _ _ _ _ _; cases noWord rfl)

theorem TypeName.takes
    (name : TypeName)
    (ends : EndsType place rest) :
    rules.parseType place (name.phrase.after lead false ++ rest) =
      some (.group [], rest) := by
  cases name with
  | plain name =>
      simp [phrase, Identifier.phrase, Rules.parseType, typeRest_name,
        namedTypeRest_plain ends]
  | qualified package name =>
      simp [phrase, Identifier.phrase, Rules.parseType, typeRest_name,
        namedTypeRest_qualified name ends]

end Names

/-- The rules for types take a type and leave what stands behind it. -/
theorem FieldType.takes
    {type : FieldType}
    {calls : Nat}
    {place : Place}
    (lead : String)
    {rest : List Token}
    (deep : type.depth ≤ calls)
    (ends : EndsType place rest) :
    (Rules.ofDepth calls).type place (type.phrase.after lead false ++ rest) =
      some (type.node, rest) := by
  induction type generalizing calls place lead rest with
  | named name =>
      obtain _ | calls := calls
      · cases deep
      exact name.takes ends
  | pointer name =>
      have two : 2 ≤ calls := deep
      obtain ⟨calls, rfl⟩ := Nat.exists_eq_add_of_le' two
      have inner : (Rules.ofDepth (calls + 1)).type place (name.phrase.after "" false ++ rest) =
          some (.group [], rest) := name.takes ends
      rw [type_ofDepth]
      simp [phrase, Rules.parseType, Rules.typeRest, Rules.wrapped, inner, node]
  | slice element inductionHypothesis =>
      obtain _ | calls := calls
      · cases deep
      have inner : (Rules.ofDepth calls).type place (element.phrase.after "" false ++ rest) =
          some (element.node, rest) :=
        inductionHypothesis "" (Nat.le_of_succ_le_succ deep) ends
      rw [type_ofDepth]
      simp [phrase, Rules.parseType, Rules.typeRest, Rules.sliceRest, Token.isSymbol, inner,
        node]
  | map key value takesKey takesValue =>
      obtain _ | calls := calls
      · cases deep
      have deepParts : max key.depth value.depth ≤ calls := Nat.le_of_succ_le_succ deep
      have inKey : ∀ others, (Rules.ofDepth calls).type .nested
          (key.phrase.after "" false ++ ⟨"", false, .symbol, "]"⟩ :: others) =
            some (key.node, ⟨"", false, .symbol, "]"⟩ :: others) := fun _ =>
        takesKey "" (by omega) (by simp [EndsType, Token.isSymbol])
      have inValue : (Rules.ofDepth calls).type place (value.phrase.after "" false ++ rest) =
          some (value.node, rest) := takesValue "" (by omega) ends
      rw [type_ofDepth]
      simp [phrase, Rules.parseType, Rules.typeRest, Rules.mapRest, Token.isSymbol, inKey,
        inValue, node]

end Written
end Go
end EnvTags
