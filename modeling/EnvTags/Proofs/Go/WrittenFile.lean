import EnvTags.Proofs.Go.WrittenRow

/-!
# Written blocks

The blocks of a written file are read as phrases, and the rules for files take them one
by one. So every written file has a syntax tree, which follows its lines.
-/

namespace EnvTags
namespace Go
namespace Written

open Phrase
open EnvTags.Go.Parser

/-! ## Structs -/

namespace StructBlock

def phrase (block : StructBlock) : Phrase :=
  (((((single .word "type").followedBy " " false block.name.phrase).followedBy " " false
    (single .word "struct")).followedBy " " false (single .symbol "\x7b")).followedByLines
    "\n\t" (block.rows.map Row.phrase)).followedBy "\n" true (single .symbol "\x7d")

/-- The node of a struct. -/
def node (block : StructBlock) : Node :=
  .typeSpec block.name.text [] (.structType
    (block.rows.map Row.declared))

theorem reads (block : StructBlock) : Reads Anything block.text block.phrase := by
  have opening := (((reads_word "type" (by decide)).spaced block.name.reads).spaced
    (reads_word "struct" (by decide))).spaced
      (reads_bracket "\x7b" (by decide))
  have rows := (opening.mono fun _ _ => trivial).followedByLines "\n\t"
    (fun row (_ : row ∈ block.rows) => row.reads) ⟨by decide, by decide⟩
  have closing := rows.apart "\n" (reads_bracket "\x7d" (by decide)) ⟨by decide, rfl⟩
    (by decide)
  have sameText : block.text = "type" ++ " " ++ block.name.text ++ " " ++ "struct" ++ " " ++
      "\x7b" ++ String.join (block.rows.map fun row => "\n\t" ++ row.text) ++ "\n" ++
        "\x7d" := by
    rw [← String.toList_inj]
    simp [text]
  rw [sameText]
  exact closing

section Rules

variable {block : StructBlock} {calls : Nat} {rest : List Token}

/-- The rules for types take the part of a struct from its keyword on. -/
theorem takes_type
    (rest : List Token)
    (deep : ∀ row ∈ block.rows, row.depth ≤ calls) :
    (Rules.ofDepth (calls + 1)).type .line
        (⟨" ", false, .word, "struct"⟩ :: ⟨" ", false, .symbol, "\x7b"⟩ ::
          ((block.rows.map Row.phrase).flatMap (fun row => row.after "\n\t" true) ++
            ⟨"\n", true, .symbol, "\x7d"⟩ :: rest)) =
      some (.structType (block.rows.map Row.declared), rest) := by
  have fields := enclosed_lines "\x7b" "\x7d" " " "\n\t" "\n" rest
    (fun row inside => Row.takes (deep row inside)) fun newline =>
      field_closingBrace newline
  rw [type_ofDepth]
  simp [Rules.parseType, Rules.typeRest, Rules.structBody, fields]

/-- The rules for files take a struct. -/
theorem takes
    (deep : ∀ row ∈ block.rows, row.depth ≤ calls) :
    TakesLine ((Rules.ofDepth (calls + 2)).topDeclaration <|>
        (Rules.ofDepth (calls + 2)).topStatement)
      block.phrase [block.node] := by
  rintro lead newline rest -
  have isType := takes_type rest deep
  have isSpec : (Rules.ofDepth (calls + 1)).typeSpecOrAlias
      (⟨" ", false, .word, block.name.text⟩ :: ⟨" ", false, .word, "struct"⟩ ::
        ⟨" ", false, .symbol, "\x7b"⟩ ::
          ((block.rows.map Row.phrase).flatMap (fun row => row.after "\n\t" true) ++
            ⟨"\n", true, .symbol, "\x7d"⟩ :: rest)) = some (block.node, rest) := by
    simp [Rules.typeSpecOrAlias, Rules.typeSpec, Token.isSymbol, isType, node]
  have isStatement : (Rules.ofDepth (calls + 2)).statement false
      (⟨lead, newline, .word, "type"⟩ :: ⟨" ", false, .word, block.name.text⟩ ::
        ⟨" ", false, .word, "struct"⟩ :: ⟨" ", false, .symbol, "\x7b"⟩ ::
          ((block.rows.map Row.phrase).flatMap (fun row => row.after "\n\t" true) ++
            ⟨"\n", true, .symbol, "\x7d"⟩ :: rest)) = some ([block.node], rest) := by
    simp [statement_ofDepth, Rules.parseStatement, Rules.notAtClause, Rules.statementFrom,
      Rules.specs, Token.isSymbol, isSpec]
  simp [phrase, Identifier.phrase, Rules.topDeclaration, Rules.packageClause,
    Rules.importDeclaration, Rules.functionDeclaration, Rules.topStatement,
    Rules.notAtTopDeclaration, Token.isWord, isStatement]

end Rules

end StructBlock

/-! ## Blocks -/

namespace Block

def phrase : Block → Phrase
  | package name => (single .word "package").followedBy " " false name.phrase
  | imports rows =>
      (((single .word "import").followedBy " " false (single .symbol "(")).followedByLines
        "\n\t" (rows.map ImportRow.phrase)).followedBy "\n" true (single .symbol ")")
  | struct block => block.phrase

/-- The nodes of a block. -/
def nodes : Block → Forest
  | package name => [.package name.text]
  | imports rows => rows.map ImportRow.node
  | struct block => [block.node]

theorem reads (block : Block) : Reads Lexeme.EndsWord block.text block.phrase := by
  cases block with
  | package name => exact (reads_word "package" (by decide)).spaced name.reads
  | imports rows =>
      have opening := (reads_word "import" (by decide)).spaced (reads_bracket "(" (by decide))
      have lines := (opening.mono fun _ _ => trivial).followedByLines "\n\t"
        (fun row (_ : row ∈ rows) => row.reads.mono fun _ _ => trivial)
        ⟨by decide, by decide⟩
      have closing := lines.apart "\n" (reads_bracket ")" (by decide)) ⟨by decide, rfl⟩
        (by decide)
      have sameText : (imports rows).text = "import" ++ " " ++ "(" ++
          String.join (rows.map fun row => "\n\t" ++ row.text) ++ "\n" ++ ")" := by
        rw [← String.toList_inj]
        simp [text]
      rw [sameText]
      exact closing.mono fun _ _ => trivial
  | struct block => exact block.reads.mono fun _ _ => trivial

/-- The types in a block are not deeper than a number of calls. -/
def Fits (calls : Nat) : Block → Prop
  | struct block => ∀ row ∈ block.rows, row.depth ≤ calls
  | _ => True

/-- The rules for files take a block. -/
theorem takes
    {block : Block}
    {calls : Nat}
    (fits : block.Fits calls) :
    TakesLine ((Rules.ofDepth (calls + 2)).topDeclaration <|>
        (Rules.ofDepth (calls + 2)).topStatement)
      block.phrase block.nodes := by
  cases block with
  | package name =>
      rintro lead newline rest -
      simp [phrase, nodes, Identifier.phrase, Rules.topDeclaration, Rules.packageClause,
        Token.isWord]
  | imports rows =>
      rintro lead newline rest -
      have lines := enclosed_lines "(" ")" " " "\n\t" "\n" rest
        (fun row (_ : row ∈ rows) => row.takes) fun newline => by
          simp [Rules.importSpec, Rules.importName, Token.isSymbol, literal, Literal.ofToken?]
      simp [phrase, nodes, Rules.topDeclaration, Rules.packageClause,
        Rules.importDeclaration, Token.isWord, lines]
  | struct block => exact StructBlock.takes fits

theorem topDeclaration_finish
    (rules : Rules)
    (lead : String)
    (newline : Bool) :
    rules.topDeclaration [⟨lead, newline, .finish, ""⟩] = none := by
  simp [Rules.topDeclaration, Rules.packageClause, Rules.importDeclaration,
    Rules.functionDeclaration, Token.isWord]

/-- No block starts at the end of a file. -/
theorem finish_eq_none
    (calls : Nat)
    (lead : String)
    (newline : Bool) :
    ((Rules.ofDepth (calls + 2)).topDeclaration <|>
        (Rules.ofDepth (calls + 2)).topStatement) [⟨lead, newline, .finish, ""⟩] = none := by
  have noExpression : (Rules.ofDepth (calls + 1)).expression .line
      [⟨lead, newline, .finish, ""⟩] = none := by
    simp [expression_ofDepth, Rules.parseExpression, Rules.unaryOperator, splitSymbol,
      Rules.isOneOf, Rules.operation, Rules.operand, Rules.operandRest, Token.isSymbol]
  have noStatement : (Rules.ofDepth (calls + 2)).statement false
      [⟨lead, newline, .finish, ""⟩] = none := by
    simp [statement_ofDepth, Rules.parseStatement, Rules.notAtClause, Rules.statementFrom,
      Rules.plainStatement, Rules.label, Rules.simpleStatement, Rules.expressionList,
      commaList, separated, noExpression]
  simp [topDeclaration_finish, Rules.topStatement, Rules.notAtTopDeclaration, Token.isWord,
    noStatement]

end Block

/-! ## Files -/

namespace File

def phrase (file : File) : Phrase :=
  (Block.package file.package).phrase.followedByLines "\n\n" (file.blocks.map Block.phrase)

/-- The tree of a file. -/
def tree (file : File) : Forest :=
  (.package file.package :: file.blocks).flatMap Block.nodes

theorem tree_eq (file : File) :
    file.tree = .package file.package.text ::
      (file.imports.map ImportRow.node ++ file.structs.map StructBlock.node) := by
  have structs : (file.structs.map Block.struct).flatMap Block.nodes =
      file.structs.map StructBlock.node := by
    rw [List.flatMap_map, List.map_eq_flatMap]
    rfl
  cases imports : file.imports <;>
    simp [tree, blocks, imports, Block.nodes, structs]

/-- The tokens of a file. The last one is the end of the text. -/
def tokens (file : File) : List Token :=
  file.phrase.after "" false ++ [⟨"\n", true, .finish, ""⟩]

theorem ofSource_text (file : File) : Token.ofSource file.text = some file.tokens := by
  have reads := (Block.package file.package).reads.followedByLines "\n\n"
    (fun block (_ : block ∈ file.blocks) => block.reads) ⟨by decide, by decide⟩
  have scanned := reads "" false ['\n'] ⟨by simp, rfl⟩ (endsWord_cons (by decide) [])
  have finish : Token.scan ['\n'] = some [⟨"\n", true, .finish, ""⟩] :=
    Token.scan_lead ⟨by decide, by decide⟩
  rw [finish] at scanned
  have startsWithWord : file.text.toList.head? = some 'p' := by simp [text, Block.text]
  unfold Token.ofSource
  split
  · rename_i isMark
    rw [isMark] at startsWithWord
    cases startsWithWord
  · simpa [text, tokens, phrase] using scanned

/-- All types of a file are less deep than the file has tokens. -/
theorem fits_of_mem_blocks
    {file : File}
    {block : Block}
    {calls : Nat}
    (enough : file.tokens.length ≤ calls)
    (inside : block ∈ file.blocks) :
    block.Fits calls := by
  cases block with
  | package => trivial
  | imports => trivial
  | struct block =>
      intro row isRow
      have ofRow := row.depth_le_length "\n\t" true
      have ofBlock : (row.phrase.after "\n\t" true).length ≤
          (block.phrase.after "\n\n" true).length := by
        rw [StructBlock.phrase, after_followedBy, List.length_append]
        exact Nat.le_trans (length_le_followedByLines (List.mem_map_of_mem isRow) _ _ _)
          (Nat.le_add_right _ _)
      have ofFile : (block.phrase.after "\n\n" true).length ≤ file.tokens.length := by
        rw [tokens, List.length_append]
        exact Nat.le_trans
          (length_le_followedByLines (List.mem_map_of_mem (f := Block.phrase) inside) _ _ _)
          (Nat.le_add_right _ _)
      omega

theorem parse_text (file : File) : parse file.text = some file.tree := by
  have many : 2 ≤ file.tokens.length := by
    simp only [tokens, phrase, after, List.length_append, List.length_cons]
    omega
  obtain ⟨calls, isDepth⟩ : ∃ calls, 2 * file.tokens.length = calls + 2 :=
    ⟨2 * file.tokens.length - 2, by omega⟩
  have takes : ∀ block ∈ Block.package file.package :: file.blocks,
      TakesLine ((Rules.ofDepth (calls + 2)).topDeclaration <|>
        (Rules.ofDepth (calls + 2)).topStatement) block.phrase block.nodes := by
    intro block inside
    refine Block.takes ?_
    rcases List.mem_cons.mp inside with rfl | inside
    · trivial
    · exact fits_of_mem_blocks (by omega) inside
  have blocks : terminated ((Rules.ofDepth (calls + 2)).topDeclaration <|>
        (Rules.ofDepth (calls + 2)).topStatement) file.tokens =
      some ((.package file.package :: file.blocks).map Block.nodes,
        [⟨"\n", false, .finish, ""⟩]) := by
    rw [tokens, phrase, after_followedByLines, List.append_assoc]
    exact terminated_lines "" "\n\n" "\n" (single .finish "") takes
      (Block.finish_eq_none calls "\n" false)
  have isFile : (Rules.ofDepth (2 * file.tokens.length)).file file.tokens =
      some (file.tree, []) := by
    rw [isDepth]
    simp [Rules.file, blocks, Block.topDeclaration_finish, Rules.finish, tree, List.flatMap]
  simp only [parse, ofSource_text]
  rw [isFile]
  rfl

end File

end Written
end Go
end EnvTags
