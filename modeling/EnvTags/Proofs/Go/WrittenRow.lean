import EnvTags.Proofs.Go.WrittenType

/-!
# Written lines

A line with an import and a line with a field are read as phrases, and the rules for
imports and for fields take them in front of a new line. A field with a name is not
mistaken for an embedded one, because its type stands on the line of the name.
-/

namespace EnvTags
namespace Go
namespace Written

open Phrase
open EnvTags.Go.Parser

/-! ## String literals -/

namespace StringLiteral

def phrase : StringLiteral → Phrase
  | raw value noBackQuote noReturn => single .rawString (raw value noBackQuote noReturn).text
  | quoted value body spells => single .quotedString (quoted value body spells).text

/-- The literal of a syntax tree. -/
def literal : StringLiteral → Literal
  | raw value _ _ => .raw value
  | quoted _ body _ => .quoted body

theorem denotes (literal : StringLiteral) : literal.literal.Denotes literal.value := by
  cases literal with
  | raw => exact .raw
  | quoted _ _ spells => exact .quoted spells

theorem reads (literal : StringLiteral) : Reads Anything literal.text literal.phrase := by
  cases literal with
  | raw value noBackQuote noReturn =>
      have isText : (raw value noBackQuote noReturn).text.toList =
          '\x60' :: (value.toList ++ ['\x60']) := by
        simp [text]
      refine reads_lexeme isText (by decide) (by decide) fun rest _ => ?_
      simpa [text] using Lexeme.first?_raw noBackQuote rest
  | quoted value body spells =>
      have isText : (quoted value body spells).text.toList = '"' :: (body.toList ++ ['"']) := by
        simp [text]
      refine reads_lexeme isText (by decide) (by decide) fun rest _ => ?_
      simpa [text] using Lexeme.first?_quoted spells rest

theorem takes
    (literal : StringLiteral)
    (lead : String)
    (newline : Bool)
    (rest : List Token) :
    Parser.literal (literal.phrase.after lead newline ++ rest) =
      some (literal.literal, rest) := by
  cases literal <;>
    simp [phrase, Parser.literal, Literal.ofToken?, Literal.inner, text, StringLiteral.literal]

end StringLiteral

/-! ## Imports -/

namespace ImportRow

def phrase (row : ImportRow) : Phrase :=
  match row.name with
  | none => row.path.phrase
  | some name => name.phrase.followedBy " " false row.path.phrase

/-- The node of an import. -/
def node (row : ImportRow) : Node :=
  .importSpec (row.name.map Identifier.text) row.path.literal

theorem reads (row : ImportRow) : Reads Anything row.text row.phrase := by
  obtain ⟨_ | name, path, _⟩ := row
  · exact path.reads
  · exact name.reads.spaced path.reads

theorem takes (row : ImportRow) : TakesLine Rules.importSpec row.phrase row.node := by
  rintro lead newline rest -
  obtain ⟨_ | name, path, _⟩ := row
  · have noName : Rules.importName (path.phrase.after lead newline ++ rest) = none := by
      cases path <;>
        simp [Rules.importName, StringLiteral.phrase, Token.isSymbol]
    simp [Rules.importSpec, phrase, node, noName, path.takes]
  · simp [Rules.importSpec, Rules.importName, phrase, node, Identifier.phrase, Token.isSymbol,
      path.takes]

end ImportRow

/-! ## Fields -/

theorem isLead_gap (more : Nat) : Token.IsLead (gap more).toList false := by
  simp [Token.IsLead, gap, Lexeme.isBlank]

theorem gap_ne_nil (more : Nat) : (gap more).toList ≠ [] := by
  simp [gap, List.replicate_succ]

namespace FieldRow

def phrase (row : FieldRow) : Phrase :=
  let declared := row.name.phrase.followedBy (gap row.typeGap) false row.type.phrase
  match row.tag with
  | none => declared
  | some (more, literal) => declared.followedBy (gap more) false literal.phrase

/-- What the line says, its type apart. -/
def header (row : FieldRow) : FieldHeader :=
  ⟨[row.name.text], row.type.text, row.tag.map fun tag => tag.2.literal⟩

theorem reads (row : FieldRow) : Reads Lexeme.EndsWord row.text row.phrase := by
  obtain ⟨name, typeGap, type, tag⟩ := row
  have declared := name.reads.apart (gap typeGap) type.reads (isLead_gap typeGap)
    (gap_ne_nil typeGap)
  rcases tag with _ | ⟨more, literal⟩
  · simpa [text, tagText, phrase] using declared
  · have tagged := declared.apart (gap more) literal.reads (isLead_gap more) (gap_ne_nil more)
    have whole : Reads Lexeme.EndsWord _ _ := tagged.mono fun _ _ => trivial
    simpa [text, tagText, phrase, String.append_assoc] using whole

end FieldRow

namespace Row

def phrase : Row → Phrase
  | field row => row.phrase
  | embedded true name => (single .symbol "*").followedBy "" false name.phrase
  | embedded false name => name.phrase

/-- What the line says, with the node of its type. -/
def declared : Row → FieldHeader × Node
  | field row => (row.header, row.type.node)
  | embedded _ name => (⟨[], name.text, none⟩, .group [])

/-- How deep the rules for types call each other for a line. -/
def depth : Row → Nat
  | field row => row.type.depth
  | embedded _ _ => 0

theorem reads (row : Row) : Reads Lexeme.EndsWord row.text row.phrase := by
  rcases row with row | ⟨_ | _, name⟩
  · exact row.reads
  · simpa [text, phrase] using name.reads
  · exact reads_star.joined name.reads fun rest _ =>
      noAssignment_of_startsWord (name.startsWord rest)

theorem depth_le_length
    (row : Row)
    (lead : String)
    (newline : Bool) :
    row.depth ≤ (row.phrase.after lead newline).length := by
  rcases row with ⟨name, typeGap, type, tag⟩ | ⟨isPointer, name⟩
  · have ofType := type.depth_le_length (gap typeGap) false
    rcases tag with _ | ⟨more, literal⟩ <;>
      simp only [depth, phrase, FieldRow.phrase, after_followedBy, List.length_append] <;>
      omega
  · exact Nat.zero_le _

end Row

section Fields

variable {calls : Nat} {lead : String} {rest : List Token}

/-- A type starts with a word, a star or a bracket. -/
theorem FieldType.isSymbol_first
    (type : FieldType)
    {mark : String}
    (other : mark ∉ ["*", "["]) :
    (Token.mk lead false type.phrase.kind type.phrase.text).isSymbol mark = false := by
  simp only [List.mem_cons, List.not_mem_nil, or_false, not_or] at other
  rcases type with (_ | _) | _ | _ | _ <;>
    simp [phrase, TypeName.phrase, Identifier.phrase, single, followedBy, Token.isSymbol,
      Ne.symm other.1, Ne.symm other.2]

theorem FieldType.isString_first (type : FieldType) :
    (Token.mk lead false type.phrase.kind type.phrase.text).isString = false := by
  rcases type with (_ | _) | _ | _ | _ <;> rfl

/-- No type starts with a closing bracket. -/
theorem type_closingBracket (place : Place) :
    (Rules.ofDepth calls).type place (⟨lead, false, .symbol, "]"⟩ :: rest) = none := by
  cases calls with
  | zero => rfl
  | succ calls =>
      rw [type_ofDepth]
      simp [Rules.parseType, Rules.typeRest]

/-- A name takes nothing of a type behind it. The brackets of a slice are no type
arguments. -/
theorem namedTypeRest_type (type : FieldType) :
    (Rules.ofDepth calls).namedTypeRest .line (type.phrase.after lead false ++ rest) =
      some (.group [], type.phrase.after lead false ++ rest) := by
  have plain : (Token.mk lead false type.phrase.kind type.phrase.text).isSymbol "[" = false →
      (Rules.ofDepth calls).namedTypeRest .line (type.phrase.after lead false ++ rest) =
        some (.group [], type.phrase.after lead false ++ rest) := by
    intro noBracket
    refine namedTypeRest_plain fun first isFirst => .inr ?_
    obtain rfl := Option.some.inj isFirst
    exact ⟨type.isSymbol_first (by decide), noBracket⟩
  cases type with
  | named name => cases name <;> exact plain rfl
  | pointer name => exact plain rfl
  | map key value => exact plain rfl
  | slice element =>
      have noArguments : ∀ others, (Rules.ofDepth calls).typeArguments
          (⟨lead, false, .symbol, "["⟩ :: ⟨"", false, .symbol, "]"⟩ :: others) = none := by
        intro others
        simp [Rules.typeArguments, commaList, separated, Rules.union, type_closingBracket]
      simp [FieldType.phrase, Rules.namedTypeRest, symbolOn, Token.isSymbol, noArguments]

/-- A field with a name is not embedded: behind the name there is no end of a field. -/
theorem embeddedField_eq_none
    (name : Identifier)
    (type : FieldType)
    (nameLead : String)
    (newline : Bool) :
    (Rules.ofDepth calls).embeddedField
      (⟨nameLead, newline, .word, name.text⟩ :: (type.phrase.after lead false ++ rest)) =
        none := by
  have takesName : (Rules.ofDepth calls).embeddedType
      (⟨nameLead, newline, .word, name.text⟩ :: (type.phrase.after lead false ++ rest)) =
        some (.group [], type.phrase.after lead false ++ rest) := by
    simp [Rules.embeddedType, namedTypeRest_type]
  have noEnd : Rules.fieldEnd (type.phrase.after lead false ++ rest) = none := by
    simp [Rules.fieldEnd, after, type.isString_first, type.isSymbol_first]
  simp [Rules.embeddedField, withText, Token.isSymbol, takesName, noEnd]

/-- No field starts with the closing brace. -/
theorem field_closingBrace (newline : Bool) :
    ((Rules.ofDepth calls).embeddedField <|> (Rules.ofDepth calls).namedField)
      (⟨lead, newline, .symbol, "\x7d"⟩ :: rest) = none := by
  simp [Rules.embeddedField, Rules.namedField, Rules.embeddedType, withText, commaList,
    separated, Token.isSymbol]

/-- The text that a parser took is the one that the phrase writes. -/
theorem withText_after
    {α : Type}
    {parser : Parser α}
    {phrase : Phrase}
    {newline : Bool}
    {value : α}
    (read : parser (phrase.after lead newline ++ rest) = some (value, rest)) :
    withText parser (phrase.after lead newline ++ rest) =
      some ((value, phrase.written), rest) := by
  simp [withText, read, Token.textBefore, sourceText_after]

/-- Behind a single name and its type the tag is read. -/
theorem namedField_of_type
    {name : Identifier}
    {type : FieldType}
    {nameLead : String}
    {newline : Bool}
    {tag : Option Literal}
    {behind : List Token}
    (deep : type.depth ≤ calls)
    (ends : EndsType .line rest)
    (isTag : Rules.fieldTag rest = some (tag, behind)) :
    (Rules.ofDepth calls).namedField
        (⟨nameLead, newline, .word, name.text⟩ :: (type.phrase.after lead false ++ rest)) =
      some ((⟨[name.text], type.text, tag⟩, type.node), behind) := by
  have isName : commaList .nested word
      (⟨nameLead, newline, .word, name.text⟩ :: (type.phrase.after lead false ++ rest)) =
        some ([name.text], type.phrase.after lead false ++ rest) := by
    have noComma : (symbolOn .nested "," *> word) (type.phrase.after lead false ++ rest) =
        none := by
      simp [symbolOn, after, type.isSymbol_first]
    simp [commaList, separated, many_of_none noComma]
  have isType := withText_after (FieldType.takes lead deep ends)
  rw [type.written_phrase] at isType
  simp [Rules.namedField, isName, isType, isTag]

/-- A type ends before a new line, and there is no tag. -/
theorem endsType_of_startsLine
    (starts : StartsLine rest) :
    EndsType .line rest ∧ Rules.fieldTag rest = some (none, rest) := by
  obtain ⟨first, isFirst, isNewline⟩ := starts
  cases rest with
  | nil => cases isFirst
  | cons other rest =>
      obtain rfl := Option.some.inj isFirst
      refine ⟨fun other isOther => ?_, by simp [Rules.fieldTag, Place.line, isNewline]⟩
      obtain rfl := Option.some.inj isOther
      exact .inl isNewline

/-- A type ends before a string literal on its line, which is the tag. -/
theorem StringLiteral.endsType
    (literal : StringLiteral)
    (lead : String)
    (rest : List Token) :
    EndsType .line (literal.phrase.after lead false ++ rest) ∧
      Rules.fieldTag (literal.phrase.after lead false ++ rest) =
        some (some literal.literal, rest) := by
  constructor
  · intro first isFirst
    obtain rfl := Option.some.inj isFirst
    cases literal <;> exact .inr ⟨rfl, rfl⟩
  · have goesOn : continues .line (literal.phrase.after lead false ++ rest) =
        some ((), literal.phrase.after lead false ++ rest) := rfl
    simp [Rules.fieldTag, goesOn, literal.takes]

/-- The rules for fields take a line with a field. -/
theorem FieldRow.takes
    {row : FieldRow}
    (deep : row.type.depth ≤ calls) :
    TakesLine ((Rules.ofDepth calls).embeddedField <|> (Rules.ofDepth calls).namedField)
      row.phrase (row.header, row.type.node) := by
  intro lead newline rest starts
  obtain ⟨name, typeGap, type, tag⟩ := row
  suffices isField : (Rules.ofDepth calls).namedField
      ((FieldRow.mk name typeGap type tag).phrase.after lead newline ++ rest) =
        some (((FieldRow.mk name typeGap type tag).header, type.node), rest) by
    rw [orElse_apply, isField]
    rcases tag with _ | ⟨more, literal⟩ <;>
      simp [phrase, Identifier.phrase, embeddedField_eq_none]
  rcases tag with _ | ⟨more, literal⟩
  · obtain ⟨ends, noTag⟩ := endsType_of_startsLine starts
    simpa [phrase, Identifier.phrase, header] using namedField_of_type deep ends noTag
  · obtain ⟨ends, isTag⟩ := literal.endsType (gap more) rest
    simpa [phrase, Identifier.phrase, header] using namedField_of_type deep ends isTag

/-- The name of an embedded type is taken up to the end of its line. -/
theorem embeddedType_name
    (name : TypeName)
    (newline : Bool)
    (ends : EndsType .line rest) :
    withText (Rules.ofDepth calls).embeddedType (name.phrase.after lead newline ++ rest) =
      some ((.group [], name.text), rest) := by
  have read : (Rules.ofDepth calls).embeddedType (name.phrase.after lead newline ++ rest) =
      some (.group [], rest) := by
    cases name with
    | plain name =>
        simp [TypeName.phrase, Identifier.phrase, Rules.embeddedType, namedTypeRest_plain ends]
    | qualified package name =>
        simp [TypeName.phrase, Identifier.phrase, Rules.embeddedType,
          namedTypeRest_qualified name ends]
  rw [withText_after read, name.written_phrase]

/-- The rules for fields take every line of a struct. -/
theorem Row.takes
    {row : Row}
    (deep : row.depth ≤ calls) :
    TakesLine ((Rules.ofDepth calls).embeddedField <|> (Rules.ofDepth calls).namedField)
      row.phrase row.declared := by
  rcases row with row | ⟨isPointer, name⟩
  · exact FieldRow.takes deep
  · intro lead newline rest starts
    obtain ⟨ends, noTag⟩ := endsType_of_startsLine starts
    have atEnd : Rules.fieldEnd rest = some ((), rest) := by
      obtain ⟨first, isFirst, isNewline⟩ := starts
      obtain ⟨rest, rfl⟩ := List.head?_eq_some_iff.mp isFirst
      simp [Rules.fieldEnd, isNewline]
    suffices isField : (Rules.ofDepth calls).embeddedField
        ((Row.embedded isPointer name).phrase.after lead newline ++ rest) =
          some ((Row.embedded isPointer name).declared, rest) by
      rw [orElse_apply, isField]
      rfl
    have noStar : symbol "*" (name.phrase.after lead newline ++ rest) = none := by
      cases name <;>
        simp [TypeName.phrase, Identifier.phrase, Token.isSymbol]
    cases isPointer with
    | false =>
        simp [phrase, declared, Rules.embeddedField, noStar, embeddedType_name name newline ends,
          atEnd, noTag]
    | true =>
        simp [phrase, declared, Rules.embeddedField, Token.isSymbol,
          embeddedType_name name false ends, atEnd, noTag]

end Fields

end Written
end Go
end EnvTags
