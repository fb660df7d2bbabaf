import EnvTags.Proofs.Go.WrittenFile

/-!
# Parsing written files

The types of a written file are groups in its syntax tree, which give nothing. So the
tree gives what its package clause, its imports and its structs give, and that is what
the file was written for.
-/

namespace EnvTags
namespace Go
namespace Written

section Tree

variable {α : Type} {give : Node → Option α}

theorem filterMap_cons_toList (node : Node) (nodes : Forest) :
    (node :: nodes).filterMap give = (give node).toList ++ nodes.filterMap give := by
  rw [List.filterMap_cons]
  cases give node <;> rfl

/-- Some nodes give what each of them gives itself. -/
theorem filterMap_preorderAll
    {ι : Type}
    {nodeOf : ι → Node}
    (alone : ∀ item, (Node.preorder (nodeOf item)).filterMap give = (give (nodeOf item)).toList)
    (items : List ι) :
    (Node.preorderAll (items.map nodeOf)).filterMap give =
      items.filterMap fun item => give (nodeOf item) := by
  induction items with
  | nil => rfl
  | cons item items inductionHypothesis =>
      rw [List.map_cons, Node.preorderAll, List.filterMap_append, alone, inductionHypothesis,
        List.filterMap_cons]
      cases give (nodeOf item) <;> rfl

theorem ImportRow.filterMap_preorder (row : ImportRow) :
    (Node.preorder row.node).filterMap give = (give row.node).toList := by
  rw [node, Node.preorder, filterMap_cons_toList, List.filterMap_nil, List.append_nil]

variable (noGroup : ∀ parts, give (.group parts) = none)
include noGroup

theorem FieldType.give_node (type : FieldType) : give type.node = none := by
  cases type <;> exact noGroup _

/-- The nodes of a type are groups. -/
theorem FieldType.filterMap_preorder (type : FieldType) :
    (Node.preorder type.node).filterMap give = (give type.node).toList := by
  rw [type.give_node noGroup]
  induction type with
  | named => simp [node, Node.preorder, Node.preorderAll, noGroup]
  | pointer => simp [node, Node.preorder, Node.preorderAll, noGroup]
  | slice element inductionHypothesis =>
      rw [node, Node.preorder, filterMap_cons_toList, noGroup, Node.preorderAll,
        Node.preorderAll, List.append_nil, inductionHypothesis]
      rfl
  | map key value fromKey fromValue =>
      rw [node, Node.preorder, filterMap_cons_toList, noGroup, Node.preorderAll,
        Node.preorderAll, Node.preorderAll, List.append_nil, List.filterMap_append, fromKey,
        fromValue]
      rfl

theorem Row.give_type (row : Row) : give row.declared.2 = none := by
  cases row with
  | field row => exact row.type.give_node noGroup
  | embedded => exact noGroup _

theorem Row.filterMap_preorder (row : Row) :
    (Node.preorder row.declared.2).filterMap give = (give row.declared.2).toList := by
  cases row with
  | field row => exact row.type.filterMap_preorder noGroup
  | embedded => simp [declared, Node.preorder, Node.preorderAll, noGroup]

variable (noStructType : ∀ fields, give (.structType fields) = none)
include noStructType

theorem StructBlock.filterMap_preorder (block : StructBlock) :
    (Node.preorder block.node).filterMap give = (give block.node).toList := by
  have fromFields : (Node.preorderFields (block.rows.map Row.declared)).filterMap give = [] := by
    rw [Node.preorderFields_eq_preorderAll, List.map_map]
    refine (filterMap_preorderAll (Row.filterMap_preorder noGroup) block.rows).trans ?_
    simp [Row.give_type noGroup]
  rw [node, Node.preorder, Node.preorder, Node.preorderAll, List.nil_append,
    filterMap_cons_toList, filterMap_cons_toList, noStructType, fromFields]
  simp

variable (give) in
/-- A file gives what the package clause, the imports and the structs give. -/
theorem File.filterMap_tree (file : File) :
    (Node.preorderAll file.tree).filterMap give =
      (give (.package file.package.text)).toList ++
        (file.imports.filterMap (fun row => give row.node) ++
          file.structs.filterMap fun block => give block.node) := by
  have fromImports : (Node.preorderAll (file.imports.map ImportRow.node)).filterMap give =
      file.imports.filterMap fun row => give row.node :=
    filterMap_preorderAll ImportRow.filterMap_preorder file.imports
  have fromStructs := filterMap_preorderAll
    (fun block => StructBlock.filterMap_preorder noGroup noStructType block) file.structs
  rw [file.tree_eq, Node.preorderAll, Node.preorder, List.singleton_append, filterMap_cons_toList,
    Node.preorderAll_append, List.filterMap_append, fromImports, fromStructs]

end Tree

/-! ## Lines -/

theorem ImportRow.imported?_node (row : ImportRow) :
    row.node.imported? = some row.imported := by
  refine (Node.imported?_eq_some_iff _ _).mpr
    ⟨row.name.map Identifier.text, row.path.literal, rfl, row.path.denotes, fun given => ?_⟩
  rw [imported, iff_self_and, Option.map_eq_some_iff]
  rintro ⟨name, isName, rfl⟩
  refine ⟨row.notBlank name isName, fun isPoint => ?_⟩
  have isWord := name.isWord
  rw [isPoint] at isWord
  cases isWord

theorem FieldRow.field?_of_declares
    {row : FieldRow}
    {field : Field}
    (declares : row.Declares field) :
    row.header.field? = some field := by
  obtain ⟨more, literal, isTag, isValue⟩ := declares.tag
  refine FieldHeader.field?_eq_some_iff.mpr
    { name := ⟨[], by rw [declares.name]; rfl⟩
      exported := by rw [declares.name]; exact declares.exported
      typeText := declares.typeText
      typeRef := congrArg TypeRef.parse declares.typeText
      tag := ⟨literal.literal, by simp [header, isTag], by rw [isValue]; exact literal.denotes⟩
      tagged := declares.tagged }

theorem FieldRow.field?_of_isOther
    {row : FieldRow}
    (isOther : row.IsOther) :
    row.header.field? = none := by
  rw [FieldHeader.field?_eq_none_iff]
  intro field gives
  rcases isOther with unexported | untagged
  · obtain ⟨others, isFirst⟩ := gives.name
    have exported := gives.exported
    rw [← (List.cons.inj isFirst).1, unexported] at exported
    cases exported
  · obtain ⟨literal, isTag, -⟩ := gives.tag
    rw [header, untagged] at isTag
    cases isTag

theorem Row.field?_of_declares
    {row : Row}
    {field : Field}
    (declares : row.Declares field) :
    row.declared.1.field? = some field := by
  obtain ⟨declares⟩ := declares
  exact FieldRow.field?_of_declares declares

theorem Row.field?_of_isOther
    {row : Row}
    (isOther : row.IsOther) :
    row.declared.1.field? = none := by
  cases row with
  | field row => exact FieldRow.field?_of_isOther isOther
  | embedded => rfl

theorem StructBlock.struct?_of_declares
    {block : StructBlock}
    {struct : Struct}
    (declares : block.Declares struct) :
    block.node.struct? = some struct := by
  have kept := filterMap_of_interspersed (fun _ isOther => Row.field?_of_isOther isOther)
    (fun _ _ declares => Row.field?_of_declares declares) declares.fields
  refine (Node.struct?_eq_some_iff _ _).mpr ⟨[], _, by rw [declares.name]; rfl,
    by rw [declares.name]; exact declares.exported, ?_, declares.nonempty⟩
  rw [← filterMap_field?_eq_iff, List.filterMap_map]
  exact kept

theorem StructBlock.struct?_of_isOther
    {block : StructBlock}
    (isOther : block.IsOther) :
    block.node.struct? = none := by
  have unexported : isExported block.name.text = false := isOther
  simp [node, Node.struct?, unexported]

/-! ## Files -/

/-- The declarations of a written file are the ones that it was written for. -/
theorem File.ofTree_tree
    {file : File}
    {declared : Declarations}
    (declares : file.Declares declared) :
    Declarations.ofTree file.tree = declared := by
  have structs := filterMap_of_interspersed
    (fun _ isOther => StructBlock.struct?_of_isOther isOther)
    (fun _ _ declares => StructBlock.struct?_of_declares declares) declares.structs
  have imports : file.imports.filterMap (fun row => row.node.imported?) =
      file.imports.map ImportRow.imported := by
    simp [ImportRow.imported?_node]
  obtain ⟨packageName, declaredImports, declaredStructs⟩ := declared
  obtain ⟨rfl, rfl, -⟩ := declares
  simp only [Declarations.ofTree, Declarations.ofNodes]
  rw [File.filterMap_tree Node.packageName? (fun _ => rfl) (fun _ => rfl) file,
    File.filterMap_tree Node.imported? (fun _ => rfl) (fun _ => rfl) file,
    File.filterMap_tree Node.struct? (fun _ => rfl) (fun _ => rfl) file, structs, imports]
  simp [Node.packageName?, Node.imported?, Node.struct?, ImportRow.node, StructBlock.node]

/-- A written file has no syntax error, and it declares what it was written for. -/
theorem File.parse_text_declares
    {file : File}
    {declared : Declarations}
    (declares : file.Declares declared) :
    ∃ tree, parse file.text = some tree ∧ Declarations.ofTree tree = declared :=
  ⟨file.tree, file.parse_text, file.ofTree_tree declares⟩

/-- The text `env:"ADDR"` between double quotes. -/
def addressTag : StringLiteral :=
  .quoted "env:\"ADDR\"" "env:\\\"ADDR\\\"" <|
    have mark : Text.Quoted.Spells ['\\', '"'] ['"'] :=
      (Text.Quoted.SpellsChar.letter (by decide)).spells
    ((Text.Quoted.spells_self "env:".toList (by simp)).append mark).append
      ((Text.Quoted.spells_self "ADDR".toList (by simp)).append mark)

/-- A file with an unexported struct before an exported one that has an unexported, an
untagged and an embedded field among its others. -/
def serverFile : File where
  package := ⟨"app", by decide, by decide⟩
  imports :=
    [⟨none, .raw "time" (by decide) (by decide), by simp⟩,
      ⟨some ⟨"db", by decide, by decide⟩,
        .raw "example.com/storage" (by decide) (by decide), by simp⟩]
  structs :=
    [⟨⟨"options", by decide, by decide⟩,
        [.field ⟨⟨"Port", by decide, by decide⟩, 0,
          .named (.plain ⟨"int", by decide, by decide⟩),
          some (0, .raw "env:\"PORT\"" (by decide) (by decide))⟩]⟩,
      ⟨⟨"Server", by decide, by decide⟩,
        [.field ⟨⟨"host", by decide, by decide⟩, 1,
            .named (.plain ⟨"string", by decide, by decide⟩),
            some (9, .raw "env:\"HOST\"" (by decide) (by decide))⟩,
          .field ⟨⟨"Name", by decide, by decide⟩, 1,
            .named (.plain ⟨"string", by decide, by decide⟩), none⟩,
          .embedded true (.plain ⟨"Logger", by decide, by decide⟩),
          .field ⟨⟨"Addr", by decide, by decide⟩, 1,
            .pointer (.qualified ⟨"net", by decide, by decide⟩ ⟨"Addr", by decide, by decide⟩),
            some (6, addressTag)⟩,
          .field ⟨⟨"Ports", by decide, by decide⟩, 0,
            .map (.named (.plain ⟨"string", by decide, by decide⟩))
              (.slice (.named (.plain ⟨"int", by decide, by decide⟩))),
            some (0, .raw "env:\"PORTS\"" (by decide) (by decide))⟩]⟩]

/-- What the file declares. -/
def serverDeclarations : Declarations where
  packageName := "app"
  imports := [⟨"time", none⟩, ⟨"example.com/storage", some "db"⟩]
  structs :=
    [⟨"Server", [⟨"Addr", "*net.Addr", "env:\"ADDR\""⟩,
      ⟨"Ports", "map[string][]int", "env:\"PORTS\""⟩]⟩]

theorem serverFile_declares : serverFile.Declares serverDeclarations where
  packageName := rfl
  imports := rfl
  structs := by
    refine .drop (show isExported "options" = false by decide) (.keep ⟨rfl, by decide, ?_, by
      decide⟩ .nil)
    refine .drop (.inl (by decide)) (.drop (.inr rfl) ?_)
    refine .drop trivial (.keep ?_ (.keep ?_ .nil))
    · exact .field ⟨rfl, by decide, by decide, ⟨_, _, rfl, rfl⟩, by decide⟩
    · exact .field ⟨rfl, by decide, by decide, ⟨_, _, rfl, rfl⟩, by decide⟩

theorem parse_serverFile :
    serverFile.text =
        "package app\n\nimport (\n\t\x60time\x60\n\tdb \x60example.com/storage\x60\n)\n\n" ++
        "type options struct \x7b\n\tPort int \x60env:\"PORT\"\x60\n\x7d\n\n" ++
        "type Server struct \x7b\n\thost  string          \x60env:\"HOST\"\x60\n" ++
        "\tName  string\n\t*Logger\n\tAddr  *net.Addr       \"env:\\\"ADDR\\\"\"\n" ++
        "\tPorts map[string][]int \x60env:\"PORTS\"\x60\n\x7d\n" ∧
      serverFile.Declares serverDeclarations ∧
      ∃ tree, parse serverFile.text = some tree ∧
        Declarations.ofTree tree = serverDeclarations :=
  ⟨by decide +kernel, serverFile_declares, File.parse_text_declares serverFile_declares⟩

end Written
end Go
end EnvTags
