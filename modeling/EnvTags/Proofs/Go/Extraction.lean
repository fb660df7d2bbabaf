import EnvTags.Proofs.Go.Places
import EnvTags.Proofs.Project.Scan
import EnvTags.Proofs.Text.Decoding

/-!
# What is extracted from a syntax tree

An exported struct with a field that is kept gives a struct, and an import with a
valid path gives an import, wherever they stand in the tree. Both are listed in the
order of their places, each once, and nothing else is listed.
-/

namespace EnvTags
namespace Go

/-! ## Kept values -/

/-- Some items give values in order, and among them stand items that give none. -/
inductive Interspersed
    {α β : Type}
    (GivesNone : α → Prop)
    (Gives : α → β → Prop) : List α → List β → Prop
  /-- There is no item left. -/
  | nil : Interspersed GivesNone Gives [] []
  /-- The first item gives a value. -/
  | keep
      {item : α}
      {items : List α}
      {value : β}
      {values : List β}
      (gives : Gives item value)
      (others : Interspersed GivesNone Gives items values) :
      Interspersed GivesNone Gives (item :: items) (value :: values)
  /-- The first item gives no value. -/
  | drop
      {item : α}
      {items : List α}
      {values : List β}
      (givesNone : GivesNone item)
      (others : Interspersed GivesNone Gives items values) :
      Interspersed GivesNone Gives (item :: items) values

theorem filterMap_of_interspersed
    {α β : Type}
    {GivesNone : α → Prop}
    {Gives : α → β → Prop}
    {give : α → Option β}
    (none_of : ∀ item, GivesNone item → give item = none)
    (some_of : ∀ item value, Gives item value → give item = some value)
    {items : List α}
    {values : List β}
    (interspersed : Interspersed GivesNone Gives items values) :
    items.filterMap give = values := by
  induction interspersed with
  | nil => rfl
  | keep gives _ inductionHypothesis =>
      rw [List.filterMap_cons_some (some_of _ _ gives), inductionHypothesis]
  | drop givesNone _ inductionHypothesis =>
      rw [List.filterMap_cons_none (none_of _ givesNone), inductionHypothesis]

theorem filterMap_eq_iff_interspersed
    {α β : Type}
    {GivesNone : α → Prop}
    {Gives : α → β → Prop}
    {give : α → Option β}
    (none_iff : ∀ item, give item = none ↔ GivesNone item)
    (some_iff : ∀ item value, give item = some value ↔ Gives item value)
    {items : List α}
    {values : List β} :
    items.filterMap give = values ↔ Interspersed GivesNone Gives items values := by
  constructor
  · rintro rfl
    induction items with
    | nil => exact .nil
    | cons item items inductionHypothesis =>
        cases given : give item with
        | none =>
            rw [List.filterMap_cons_none given]
            exact .drop ((none_iff item).mp given) inductionHypothesis
        | some value =>
            rw [List.filterMap_cons_some given]
            exact .keep ((some_iff item value).mp given) inductionHypothesis
  · exact filterMap_of_interspersed (fun item => (none_iff item).mpr)
      fun item value => (some_iff item value).mpr

/-! ## Literals -/

/-- The string that a literal stands for. -/
inductive Literal.Denotes : Literal → String → Prop
  /-- Between back quotes every text stands for itself. -/
  | raw {text : String} : Denotes (raw text) text
  /-- Between double quotes a text is spelled. -/
  | quoted
      {body text : String}
      (spells : Text.Quoted.Spells body.toList text.toList) :
      Denotes (quoted body) text

theorem Literal.value?_eq_some_iff
    {literal : Literal}
    {text : String} :
    literal.value? = some text ↔ literal.Denotes text := by
  constructor
  · intro isValue
    cases literal with
    | raw body =>
        obtain rfl := Option.some.inj isValue
        exact .raw
    | quoted body => exact .quoted (Text.Quoted.spells_of_decode isValue)
  · rintro (_ | ⟨spells⟩)
    · rfl
    · rw [value?, Text.Quoted.decode_of_spells spells, String.ofList_toList]

/-! ## Fields -/

/-- A declaration gives a field: its first name, which is exported, its type as it is
written, with the class of that text, and its tag, which is not empty. -/
structure FieldHeader.Gives (header : FieldHeader) (field : Field) : Prop where
  name : ∃ others, header.names = field.name :: others
  exported : isExported field.name = true
  typeText : field.typeText = header.typeText
  typeRef : field.typeRef = TypeRef.parse header.typeText
  tag : ∃ literal, header.tag = some literal ∧ literal.Denotes field.tag
  tagged : field.tag ≠ ""

theorem FieldHeader.field?_eq_some_iff
    {header : FieldHeader}
    {field : Field} :
    header.field? = some field ↔ header.Gives field := by
  constructor
  · intro isField
    unfold field? at isField
    split at isField
    · rename_i name tag isName isTag
      split at isField
      · rename_i kept
        obtain rfl := Option.some.inj isField
        obtain ⟨exported, tagged⟩ := (Bool.and_eq_true _ _).mp kept
        obtain ⟨others, names⟩ := List.head?_eq_some_iff.mp isName
        obtain ⟨literal, written, isValue⟩ := Option.bind_eq_some_iff.mp isTag
        exact ⟨⟨others, names⟩, exported, rfl, rfl,
          ⟨literal, written, Literal.value?_eq_some_iff.mp isValue⟩, bne_iff_ne.mp tagged⟩
      · cases isField
    · cases isField
  · rintro ⟨⟨others, names⟩, exported, typeText, -, ⟨literal, written, denotes⟩, tagged⟩
    simp [field?, names, written, Literal.value?_eq_some_iff.mpr denotes, exported, tagged,
      ← typeText]

theorem FieldHeader.field?_eq_none_iff {header : FieldHeader} :
    header.field? = none ↔ ∀ field, ¬header.Gives field := by
  simp only [Option.eq_none_iff_forall_ne_some, ne_eq, field?_eq_some_iff]

/-- The fields that some declarations give, in order. -/
def KeepsFields : List (FieldHeader × Node) → List Field → Prop :=
  Interspersed (fun declared => ∀ field, ¬declared.1.Gives field)
    fun declared field => declared.1.Gives field

theorem filterMap_field?_eq_iff
    {fields : List (FieldHeader × Node)}
    {kept : List Field} :
    fields.filterMap (fun field => field.1.field?) = kept ↔ KeepsFields fields kept :=
  filterMap_eq_iff_interspersed (fun _ => FieldHeader.field?_eq_none_iff)
    fun _ _ => FieldHeader.field?_eq_some_iff

/-! ## Nodes -/

namespace Node

/-- A node specifies a struct: its name is exported, its type is a struct type itself,
and at least one field is kept. -/
def GivesStruct (node : Node) (struct : Struct) : Prop :=
  ∃ parameters fields, node = typeSpec struct.name parameters (structType fields) ∧
    isExported struct.name = true ∧ KeepsFields fields struct.fields ∧ struct.fields ≠ []

/-- A node writes an import: its path is valid, and its name is the one that is
written, unless that is a blank or a dot. -/
def GivesImport (node : Node) (imported : Import) : Prop :=
  ∃ name path, node = importSpec name path ∧ path.Denotes imported.path ∧
    ∀ given, imported.name = some given ↔ name = some given ∧ given ≠ "_" ∧ given ≠ "."

/-- A node is a clause that names the package. -/
def GivesPackage (node : Node) (name : String) : Prop :=
  node = package name

theorem struct?_eq_some_iff
    (node : Node)
    (struct : Struct) :
    node.struct? = some struct ↔ node.GivesStruct struct := by
  constructor
  · intro isStruct
    unfold struct? at isStruct
    split at isStruct
    · rename_i name parameters fields
      simp only [Option.ite_none_right_eq_some, Bool.and_eq_true, Bool.not_eq_true',
        List.isEmpty_eq_false_iff] at isStruct
      obtain ⟨⟨exported, nonempty⟩, same⟩ := isStruct
      obtain rfl := Option.some.inj same
      exact ⟨parameters, fields, rfl, exported, filterMap_field?_eq_iff.mp rfl, nonempty⟩
    · cases isStruct
  · rintro ⟨parameters, fields, rfl, exported, keeps, nonempty⟩
    simp [struct?, filterMap_field?_eq_iff.mpr keeps, exported, nonempty]

theorem imported?_eq_some_iff
    (node : Node)
    (imported : Import) :
    node.imported? = some imported ↔ node.GivesImport imported := by
  cases node with
  | importSpec name path =>
      obtain ⟨importPath, importName⟩ := imported
      simp only [imported?, Option.map_eq_some_iff, Import.mk.injEq,
        Literal.value?_eq_some_iff, GivesImport, importSpec.injEq]
      constructor
      · rintro ⟨value, denotes, rfl, rfl⟩
        refine ⟨name, path, ⟨rfl, rfl⟩, denotes, fun given => ?_⟩
        simp [Option.filter_eq_some_iff, isUnnamed]
      · rintro ⟨_, _, ⟨rfl, rfl⟩, denotes, names⟩
        refine ⟨importPath, denotes, rfl, Option.ext fun given => ?_⟩
        rw [names]
        simp [Option.filter_eq_some_iff, isUnnamed]
  | _ => simp [imported?, GivesImport]

theorem packageName?_eq_some_iff
    (node : Node)
    (name : String) :
    node.packageName? = some name ↔ node.GivesPackage name := by
  cases node <;> simp [packageName?, GivesPackage]

end Node

/-! ## Declarations -/

/-- The declarations of a file are the ones that the nodes of a tree give. The package
has the name that is given last. -/
structure Declarations.Lists (declared : Declarations) (tree : Forest) : Prop where
  structs : (Node.group tree).Enumerates Node.GivesStruct declared.structs
  imports : (Node.group tree).Enumerates Node.GivesImport declared.imports
  packageName : ∃ names, (Node.group tree).Enumerates Node.GivesPackage names ∧
    declared.packageName = names.getLast?.getD ""

theorem Declarations.lists_ofTree (tree : Forest) : (ofTree tree).Lists tree where
  -- The group around the tree is listed first and gives nothing itself.
  structs := Node.enumerates_filterMap Node.struct?_eq_some_iff (.group tree)
  imports := Node.enumerates_filterMap Node.imported?_eq_some_iff (.group tree)
  packageName := ⟨_,
    Node.enumerates_filterMap Node.packageName?_eq_some_iff (.group tree), rfl⟩

end Go

namespace Project

/-- From every syntax tree comes what its nodes declare, nothing more and nothing
less, and from a text with a syntax error comes an error that names the file. -/
theorem scanFile_lists :
    (∀ tree, (Go.Declarations.ofTree tree).Lists tree) ∧
    ∀ (system : FileSystem) (scope : Scope) (path : Path) (source : String),
      system.readText path = .ok source →
        (∀ tree, Go.parse source = some tree →
          scanFile system scope path = .ok (sourceFile scope path (.ofTree tree))) ∧
        (Go.parse source = none →
          scanFile system scope path = .error (.syntaxError path) ∧
            path.text.toList <:+: (AnalysisError.syntaxError path).message.toList) := by
  refine ⟨Go.Declarations.lists_ofTree, fun system scope path source read => ⟨?_, ?_⟩⟩
  · intro tree parsed
    exact scanFile_eq_ok_iff.mpr ⟨_, ⟨source, tree, read, parsed, rfl⟩, rfl⟩
  · intro failed
    exact ⟨by simp [scanFile, read, failed], AnalysisError.names_file path⟩

/-- A struct in a struct of a function, after an unnamed import and a struct whose field
has no tag. -/
example :
    Go.Declarations.ofTree
      [.package "app",
        .importSpec (some "_") (.quoted "example.com/run"),
        .typeSpec "Plain" [] (.structType [(⟨["Port"], "int", none⟩, .group [])]),
        .group [.group [.typeSpec "Outer" [] (.structType
          [(⟨["port", "Port"], "int", some (.raw "env:\"PORT\"")⟩, .group []),
            (⟨["Port", "port"], "int", some (.raw "env:\"PORT\"")⟩,
              .group [.typeSpec "Inner" [] (.structType
                [(⟨["Host"], "*string", some (.raw "x")⟩, .group [])])])])]]] =
      ⟨"app", [⟨"example.com/run", none⟩],
        [⟨"Outer", [⟨"Port", "int", "env:\"PORT\""⟩]⟩,
          ⟨"Inner", [⟨"Host", "*string", "x"⟩]⟩]⟩ := by
  decide +kernel

end Project
end EnvTags
