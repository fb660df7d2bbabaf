import EnvTags.Proofs.Expansion.Step

/-!
# Expansion trees

The nodes of an expansion tree are records. Each field of a record is a branch
of its node: one variable, a nested record, a nested record that is cut off
because it stands on the way from the root, or nothing. Which of them it is does
not depend on a depth: `Grown` says it by the lookups alone, made one after the
other in the order of the fields with the directories scanned so far.

The main result is that an expansion succeeds exactly when there is a tree, and
that its variables and diagnostics are then read off the tree.
-/

namespace EnvTags
namespace Expansion

/-- What becomes of one field of a record. -/
inductive Branch
  /-- The field is one variable. -/
  | leaf (field : Field) (descriptor : Tag.Descriptor)
  /-- The field stands for a nested record with branches of its own. -/
  | child
      (field : Field)
      (descriptor : Tag.Descriptor)
      (record : Record)
      (branches : List Branch)
  /-- The field stands for a record on the way from the root. -/
  | cut (field : Field)
  /-- The field gives no variable, which is reported as listed. -/
  | omitted (field : Field) (reports : List Diagnostic)

/-- A record with a branch for each of its fields. -/
structure Tree where
  /-- The record at the root. -/
  record : Record
  /-- The branches of the fields, in the order of their declarations. -/
  branches : List Branch

/-- A leaf of a tree with the way that leads to it. -/
structure Leaf where
  /-- The container fields on the way from the root with their descriptions, the
  outermost one first. -/
  containers : List (Field × Tag.Descriptor)
  /-- The record that declares the leaf. -/
  record : Record
  /-- The field that is the leaf. -/
  field : Field
  /-- The description of the field. -/
  descriptor : Tag.Descriptor

namespace Leaf

/-- The same leaf, seen from outside of a container field. -/
def below
    (field : Field)
    (descriptor : Tag.Descriptor)
    (leaf : Leaf) : Leaf :=
  { leaf with containers := (field, descriptor) :: leaf.containers }

/-- The prefixes of the container fields, one after the other. -/
def containerPrefix (leaf : Leaf) : String :=
  String.join (leaf.containers.map fun container => container.2.containerPrefix)

/-- The variable of a leaf, where all names have a prefix in front. -/
def entry (namePrefix : String) (leaf : Leaf) : Variable where
  package := leaf.record.package
  name := namePrefix ++ leaf.containerPrefix ++ leaf.descriptor.variableName
  value := leaf.descriptor.defaultValue

/-- A container field adds its own prefix to those in front. -/
theorem entry_below
    (namePrefix : String)
    (field : Field)
    (descriptor : Tag.Descriptor)
    (leaf : Leaf) :
    (leaf.below field descriptor).entry namePrefix =
      leaf.entry (namePrefix ++ descriptor.containerPrefix) := by
  simp [entry, containerPrefix, below, String.append_assoc]

end Leaf

namespace Branch

mutual

/-- The leaves on a branch of a record, in the order of the fields. -/
@[simp] def leaves (record : Record) : Branch → List Leaf
  | leaf field descriptor => [⟨[], record, field, descriptor⟩]
  | child field descriptor target branches =>
      (leavesAmong target branches).map (Leaf.below field descriptor)
  | cut _ => []
  | omitted _ _ => []

/-- The leaves on some branches of a record. -/
@[simp] def leavesAmong (record : Record) : List Branch → List Leaf
  | [] => []
  | branch :: branches => leaves record branch ++ leavesAmong record branches

end

mutual

/-- The diagnostics on a branch of a record, in the order of the fields. -/
@[simp] def reports (record : Record) : Branch → List Diagnostic
  | leaf _ _ => []
  | child _ _ target branches => reportsAmong target branches
  | cut field => [⟨record.key, field.name, .cycle⟩]
  | omitted _ reports => reports

/-- The diagnostics on some branches of a record. -/
@[simp] def reportsAmong (record : Record) : List Branch → List Diagnostic
  | [] => []
  | branch :: branches => reports record branch ++ reportsAmong record branches

end

mutual

/-- The fields cut off on a branch of a record, each with the record that
declares it. -/
@[simp] def cuts (record : Record) : Branch → List (Record × Field)
  | leaf _ _ => []
  | child _ _ target branches => cutsAmong target branches
  | cut field => [(record, field)]
  | omitted _ _ => []

/-- The fields cut off on some branches of a record. -/
@[simp] def cutsAmong (record : Record) : List Branch → List (Record × Field)
  | [] => []
  | branch :: branches => cuts record branch ++ cutsAmong record branches

end

end Branch

namespace Tree

/-- The leaves of a tree, depth first and in the order of the fields. -/
def leaves (tree : Tree) : List Leaf :=
  Branch.leavesAmong tree.record tree.branches

/-- The diagnostics of a tree, depth first and in the order of the fields. -/
def reports (tree : Tree) : List Diagnostic :=
  Branch.reportsAmong tree.record tree.branches

/-- The fields cut off in a tree, each with the record that declares it. -/
def cuts (tree : Tree) : List (Record × Field) :=
  Branch.cutsAmong tree.record tree.branches

end Tree

/-- The branches of some fields of a record, where `path` holds the keys of the
record and of those around it. The lookups start with the directories scanned
before and end with those scanned after them. -/
inductive Grown (setting : Setting) :
    (path : List Key) → (record : Record) → (fields : List Field) →
    (before : Dependency.ScanCache) → (branches : List Branch) →
    (after : Dependency.ScanCache) → Prop
  /-- No field has no branch. -/
  | done
      {path : List Key} {record : Record} {cache : Dependency.ScanCache} :
      Grown setting path record [] cache [] cache
  /-- A field without a description is left out. -/
  | untagged
      {path : List Key} {record : Record} {field : Field}
      {fields : List Field} {before after : Dependency.ScanCache}
      {branches : List Branch}
      (undescribed : setting.scheme.describe field.tag = none)
      (rest : Grown setting path record fields before branches after) :
      Grown setting path record (field :: fields) before
        (.omitted field (untaggedReports record field) :: branches) after
  /-- A field that is one variable is a leaf. -/
  | leaf
      {path : List Key} {record : Record} {field : Field}
      {fields : List Field} {before after : Dependency.ScanCache}
      {branches : List Branch} {descriptor : Tag.Descriptor}
      (isLeaf : LeafField setting field descriptor)
      (rest : Grown setting path record fields before branches after) :
      Grown setting path record (field :: fields) before
        (.leaf field descriptor :: branches) after
  /-- A container field without a nested record is left out. -/
  | missing
      {path : List Key} {record : Record} {field : Field}
      {fields : List Field} {before after : Dependency.ScanCache}
      {branches : List Branch} {descriptor : Tag.Descriptor} {next : State}
      (isContainer : ContainerField setting field descriptor)
      (lookup : nestedRecord setting { cache := before } record field =
        (.ok none, next))
      (rest : Grown setting path record fields next.cache branches after) :
      Grown setting path record (field :: fields) before
        (.omitted field next.diagnostics :: branches) after
  /-- A container field is cut off if its record stands on the way already. -/
  | cut
      {path : List Key} {record : Record} {field : Field}
      {fields : List Field} {before after : Dependency.ScanCache}
      {branches : List Branch} {descriptor : Tag.Descriptor}
      {target : Record} {next : State}
      (isContainer : ContainerField setting field descriptor)
      (lookup : nestedRecord setting { cache := before } record field =
        (.ok (some target), next))
      (onPath : target.key ∈ path)
      (rest : Grown setting path record fields next.cache branches after) :
      Grown setting path record (field :: fields) before
        (.cut field :: branches) after
  /-- A container field has its record as a child if that does not stand on the
  way already. -/
  | child
      {path : List Key} {record : Record} {field : Field}
      {fields : List Field} {before between after : Dependency.ScanCache}
      {branches inner : List Branch} {descriptor : Tag.Descriptor}
      {target : Record} {next : State}
      (isContainer : ContainerField setting field descriptor)
      (lookup : nestedRecord setting { cache := before } record field =
        (.ok (some target), next))
      (fresh : target.key ∉ path)
      (nested : Grown setting (target.key :: path) target target.fields
        next.cache inner between)
      (rest : Grown setting path record fields between branches after) :
      Grown setting path record (field :: fields) before
        (.child field descriptor target inner :: branches) after

/-- The tree is the expansion tree of its record, when the directories in
`before` have been scanned; in the end those in `after` have. -/
def Tree.IsExpansion
    (setting : Setting)
    (before : Dependency.ScanCache)
    (tree : Tree)
    (after : Dependency.ScanCache) : Prop :=
  Grown setting [tree.record.key] tree.record tree.record.fields before
    tree.branches after

/-! ## A record has one tree -/

/-- A field is not both one variable and a container. -/
theorem LeafField.not_containerField
    {setting : Setting}
    {field : Field}
    {descriptor other : Tag.Descriptor}
    (isLeaf : LeafField setting field descriptor) :
    ¬ContainerField setting field other := by
  rintro ⟨described, notBuiltin, isContainer⟩
  obtain ⟨same, builtin | notContainer⟩ := isLeaf
  · simp [notBuiltin] at builtin
  · rw [described, Option.some.injEq] at same
    simp [same ▸ isContainer] at notContainer

/-- A field has at most one description. -/
theorem ContainerField.unique
    {setting : Setting}
    {field : Field}
    {descriptor other : Tag.Descriptor}
    (isContainer : ContainerField setting field descriptor)
    (isOther : ContainerField setting field other) :
    descriptor = other :=
  Option.some.inj (isContainer.1.symm.trans isOther.1)

/-- The lookups decide the branches and the directories scanned for them. -/
theorem Grown.unique
    {setting : Setting}
    {path : List Key}
    {record : Record}
    {fields : List Field}
    {before after final : Dependency.ScanCache}
    {branches others : List Branch}
    (grown : Grown setting path record fields before branches after)
    (other : Grown setting path record fields before others final) :
    branches = others ∧ after = final := by
  induction grown generalizing others final with
  | done =>
      cases other
      exact ⟨rfl, rfl⟩
  | untagged undescribed _ inductionHypothesis =>
      cases other with
      | untagged _ rest =>
          obtain ⟨rfl, rfl⟩ := inductionHypothesis rest
          exact ⟨rfl, rfl⟩
      | leaf isLeaf => simp [isLeaf.1] at undescribed
      | missing isContainer => simp [isContainer.1] at undescribed
      | cut isContainer => simp [isContainer.1] at undescribed
      | child isContainer => simp [isContainer.1] at undescribed
  | leaf isLeaf _ inductionHypothesis =>
      cases other with
      | untagged undescribed => simp [isLeaf.1] at undescribed
      | leaf isOther rest =>
          obtain ⟨rfl, rfl⟩ := inductionHypothesis rest
          obtain rfl := Option.some.inj (isLeaf.1.symm.trans isOther.1)
          exact ⟨rfl, rfl⟩
      | missing isContainer => exact absurd isContainer isLeaf.not_containerField
      | cut isContainer => exact absurd isContainer isLeaf.not_containerField
      | child isContainer => exact absurd isContainer isLeaf.not_containerField
  | missing isContainer lookup _ inductionHypothesis =>
      cases other with
      | untagged undescribed => simp [isContainer.1] at undescribed
      | leaf isLeaf => exact absurd isContainer isLeaf.not_containerField
      | missing _ lookup' rest =>
          obtain ⟨-, rfl⟩ := Prod.mk.inj (lookup.symm.trans lookup')
          obtain ⟨rfl, rfl⟩ := inductionHypothesis rest
          exact ⟨rfl, rfl⟩
      | cut _ lookup' => simp [lookup] at lookup'
      | child _ lookup' => simp [lookup] at lookup'
  | cut isContainer lookup onPath _ inductionHypothesis =>
      cases other with
      | untagged undescribed => simp [isContainer.1] at undescribed
      | leaf isLeaf => exact absurd isContainer isLeaf.not_containerField
      | missing _ lookup' => simp [lookup] at lookup'
      | cut _ lookup' _ rest =>
          obtain ⟨-, rfl⟩ := Prod.mk.inj (lookup.symm.trans lookup')
          obtain ⟨rfl, rfl⟩ := inductionHypothesis rest
          exact ⟨rfl, rfl⟩
      | child _ lookup' fresh =>
          simp only [lookup, Prod.mk.injEq, Except.ok.injEq,
            Option.some.injEq] at lookup'
          exact absurd (lookup'.1 ▸ onPath) fresh
  | child isContainer lookup fresh _ _ nestedHypothesis restHypothesis =>
      cases other with
      | untagged undescribed => simp [isContainer.1] at undescribed
      | leaf isLeaf => exact absurd isContainer isLeaf.not_containerField
      | missing _ lookup' => simp [lookup] at lookup'
      | cut _ lookup' onPath =>
          simp only [lookup, Prod.mk.injEq, Except.ok.injEq,
            Option.some.injEq] at lookup'
          exact absurd (lookup'.1 ▸ onPath) fresh
      | child isOther lookup' _ nested rest =>
          simp only [lookup, Prod.mk.injEq, Except.ok.injEq,
            Option.some.injEq] at lookup'
          obtain ⟨rfl, rfl⟩ := lookup'
          obtain rfl := isContainer.unique isOther
          obtain ⟨rfl, rfl⟩ := nestedHypothesis nested
          obtain ⟨rfl, rfl⟩ := restHypothesis rest
          exact ⟨rfl, rfl⟩

/-- A record has at most one expansion tree. -/
theorem Tree.IsExpansion.unique
    {setting : Setting}
    {before after final : Dependency.ScanCache}
    {tree other : Tree}
    (isTree : tree.IsExpansion setting before after)
    (isOther : other.IsExpansion setting before final)
    (sameRecord : tree.record = other.record) :
    tree = other ∧ after = final := by
  obtain ⟨record, branches⟩ := tree
  obtain ⟨record, others⟩ := other
  subst sameRecord
  obtain ⟨rfl, rfl⟩ := Grown.unique isTree isOther
  exact ⟨rfl, rfl⟩

/-! ## Cut fields and diagnostics -/

/-- The diagnostics about cycles are those of the fields that are cut off. -/
theorem Grown.filter_reports
    {setting : Setting}
    {path : List Key}
    {record : Record}
    {fields : List Field}
    {before after : Dependency.ScanCache}
    {branches : List Branch}
    (grown : Grown setting path record fields before branches after) :
    (Branch.reportsAmong record branches).filter
        (fun report => report.omission = .cycle) =
      (Branch.cutsAmong record branches).map fun cut =>
        ⟨cut.1.key, cut.2.name, .cycle⟩ := by
  induction grown with
  | done => rfl
  | @untagged _ record field _ _ _ _ _ _ inductionHypothesis =>
      have none : (untaggedReports record field).filter
          (fun report => report.omission = .cycle) = [] := by
        unfold untaggedReports
        split <;> simp
      simp [none, inductionHypothesis]
  | leaf _ _ inductionHypothesis =>
      simp [inductionHypothesis]
  | @missing _ record field _ before _ _ _ next _ lookup _ inductionHypothesis =>
      have none : next.diagnostics.filter
          (fun report => report.omission = .cycle) = [] := by
        rw [List.filter_eq_nil_iff]
        intro report inside
        have reported : report ∈
            (nestedRecord setting { cache := before } record field).2.diagnostics := by
          rw [lookup]
          exact inside
        simpa using nestedRecord_omission_ne_cycle setting before record field
          reported
      simp [none, inductionHypothesis]
  | cut _ _ _ _ inductionHypothesis =>
      simp [inductionHypothesis]
  | child _ _ _ _ _ nestedHypothesis restHypothesis =>
      simp [nestedHypothesis, restHypothesis]

end Expansion
end EnvTags
