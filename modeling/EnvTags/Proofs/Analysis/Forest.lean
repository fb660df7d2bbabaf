import EnvTags.Proofs.Analysis
import EnvTags.Proofs.Expansion.Leaves

/-!
# The trees of an analysis

An analysis that succeeds has an expansion tree for each root of the graph, and
its variables are the leaves of these trees, one after the other. The nodes of a
tree are the records that are expanded. What becomes of a field of a node depends
on its type and on the flags in its tag alone: it is a leaf exactly if it is
described and is no container or has a builtin type.
-/

namespace EnvTags

namespace Expansion

/-! ## Nodes -/

namespace Branch

mutual

/-- The records that are expanded on a branch. -/
@[simp] def nodes : Branch → List Record
  | leaf _ _ => []
  | child _ _ target branches => target :: nodesAmong branches
  | cut _ => []
  | omitted _ _ => []

/-- The records that are expanded on some branches. -/
@[simp] def nodesAmong : List Branch → List Record
  | [] => []
  | branch :: branches => nodes branch ++ nodesAmong branches

end

end Branch

/-- The records that are expanded in a tree. -/
def Tree.nodes (tree : Tree) : List Record :=
  tree.record :: Branch.nodesAmong tree.branches

/-- A field of a record is a leaf with a description. -/
def Leaf.IsOf
    (leaf : Leaf)
    (record : Record)
    (field : Field)
    (descriptor : Tag.Descriptor) : Prop :=
  leaf.record = record ∧ leaf.field = field ∧ leaf.descriptor = descriptor

theorem Leaf.isOf_below_iff
    {leaf : Leaf}
    {container field : Field}
    {outer descriptor : Tag.Descriptor}
    {record : Record} :
    (leaf.below container outer).IsOf record field descriptor ↔
      leaf.IsOf record field descriptor :=
  Iff.rfl

/-- A field has at most one description. -/
theorem LeafField.unique
    {setting : Setting}
    {field : Field}
    {descriptor other : Tag.Descriptor}
    (isLeaf : LeafField setting field descriptor)
    (isOther : LeafField setting field other) :
    descriptor = other :=
  Option.some.inj (isLeaf.1.symm.trans isOther.1)

section Fields

variable
  {setting : Setting}
  {path : List Key}
  {record : Record}
  {fields : List Field}
  {before after : Dependency.ScanCache}
  {branches : List Branch}

/-- The leaves on the branches of some fields are described as such, and the
fields on the way to them are described as containers. -/
theorem Grown.described
    (grown : Grown setting path record fields before branches after) :
    ∀ leaf ∈ Branch.leavesAmong record branches,
      LeafField setting leaf.field leaf.descriptor ∧
        ∀ container ∈ leaf.containers,
          ContainerField setting container.1 container.2 := by
  induction grown with
  | done => simp
  | untagged _ _ inductionHypothesis => simpa using inductionHypothesis
  | leaf isLeaf _ inductionHypothesis =>
      rw [Branch.leavesAmong, Branch.leaves, List.singleton_append]
      exact List.forall_mem_cons.mpr ⟨⟨isLeaf, by simp⟩, inductionHypothesis⟩
  | missing _ _ _ inductionHypothesis => simpa using inductionHypothesis
  | cut _ _ _ _ inductionHypothesis => simpa using inductionHypothesis
  | child isContainer _ _ _ _ nestedHypothesis restHypothesis =>
      intro leaf present
      rw [Branch.leavesAmong, Branch.leaves, List.mem_append] at present
      rcases present with nested | later
      · obtain ⟨inner, inside, rfl⟩ := List.mem_map.mp nested
        obtain ⟨isLeaf, areContainers⟩ := nestedHypothesis inner inside
        exact ⟨isLeaf, List.forall_mem_cons.mpr ⟨isContainer, areContainers⟩⟩
      · exact restHypothesis leaf later

/-- A field that is no leaf can be passed over. -/
theorem leafField_and_mem_cons_iff
    {field other : Field}
    (notLeaf : ∀ descriptor, ¬LeafField setting other descriptor)
    {descriptor : Tag.Descriptor}
    {target : Record}
    {elsewhere : Prop} :
    (LeafField setting field descriptor ∧
        (target = record ∧ field ∈ other :: fields ∨ elsewhere)) ↔
      LeafField setting field descriptor ∧
        (target = record ∧ field ∈ fields ∨ elsewhere) := by
  refine and_congr_right fun isLeaf => ?_
  have isOther : field ≠ other := by
    rintro rfl
    exact notLeaf descriptor isLeaf
  rw [List.mem_cons, or_iff_right isOther]

/-- The leaves below a container field come before those of the other fields. -/
theorem exists_leaf_child_iff
    {container field : Field}
    {outer descriptor : Tag.Descriptor}
    {nested target : Record}
    {inner : List Branch} :
    (∃ leaf ∈ Branch.leavesAmong record
          (.child container outer nested inner :: branches),
        leaf.IsOf target field descriptor) ↔
      (∃ leaf ∈ Branch.leavesAmong nested inner,
          leaf.IsOf target field descriptor) ∨
        ∃ leaf ∈ Branch.leavesAmong record branches,
          leaf.IsOf target field descriptor := by
  simp [or_and_right, exists_or, Leaf.isOf_below_iff]

/-- The leaves on the branches of some fields are the leaf fields among them and
those of the records that are expanded. -/
theorem Grown.exists_leaf_iff
    (grown : Grown setting path record fields before branches after)
    (target : Record)
    (field : Field)
    (descriptor : Tag.Descriptor) :
    (∃ leaf ∈ Branch.leavesAmong record branches,
        leaf.IsOf target field descriptor) ↔
      LeafField setting field descriptor ∧
        (target = record ∧ field ∈ fields ∨
          target ∈ Branch.nodesAmong branches ∧ field ∈ target.fields) := by
  induction grown with
  | done => simp
  | untagged undescribed _ inductionHypothesis =>
      rw [leafField_and_mem_cons_iff fun _ isLeaf => by
        simp [LeafField, undescribed] at isLeaf]
      simpa using inductionHypothesis
  | leaf isLeaf _ inductionHypothesis =>
      rw [Branch.leavesAmong, Branch.leaves, List.singleton_append,
        List.exists_mem_cons_iff, inductionHypothesis, Branch.nodesAmong,
        Branch.nodes, List.nil_append]
      constructor
      · rintro (⟨rfl, rfl, rfl⟩ | ⟨isOther, here | below⟩)
        · exact ⟨isLeaf, .inl ⟨rfl, List.mem_cons_self⟩⟩
        · exact ⟨isOther, .inl ⟨here.1, List.mem_cons_of_mem _ here.2⟩⟩
        · exact ⟨isOther, .inr below⟩
      · rintro ⟨isOther, ⟨rfl, inFields⟩ | below⟩
        · rcases List.mem_cons.mp inFields with rfl | later
          · exact .inl ⟨rfl, rfl, isLeaf.unique isOther⟩
          · exact .inr ⟨isOther, .inl ⟨rfl, later⟩⟩
        · exact .inr ⟨isOther, .inr below⟩
  | missing isContainer _ _ inductionHypothesis =>
      rw [leafField_and_mem_cons_iff fun _ isLeaf =>
        isLeaf.not_containerField isContainer]
      simpa using inductionHypothesis
  | cut isContainer _ _ _ inductionHypothesis =>
      rw [leafField_and_mem_cons_iff fun _ isLeaf =>
        isLeaf.not_containerField isContainer]
      simpa using inductionHypothesis
  | child isContainer _ _ _ _ nestedHypothesis restHypothesis =>
      rw [leafField_and_mem_cons_iff fun _ isLeaf =>
        isLeaf.not_containerField isContainer]
      rw [exists_leaf_child_iff, nestedHypothesis, restHypothesis]
      constructor
      · rintro (⟨isLeaf, ⟨rfl, inFields⟩ | below⟩ | ⟨isLeaf, here | below⟩)
        · exact ⟨isLeaf, .inr ⟨by simp, inFields⟩⟩
        · exact ⟨isLeaf, .inr ⟨by simp [below.1], below.2⟩⟩
        · exact ⟨isLeaf, .inl here⟩
        · exact ⟨isLeaf, .inr ⟨by simp [below.1], below.2⟩⟩
      · rintro ⟨isLeaf, here | ⟨isNode, inFields⟩⟩
        · exact .inr ⟨isLeaf, .inl here⟩
        · rw [Branch.nodesAmong, Branch.nodes, List.cons_append,
            List.mem_cons, List.mem_append] at isNode
          rcases isNode with rfl | inner | later
          · exact .inl ⟨isLeaf, .inl ⟨rfl, inFields⟩⟩
          · exact .inl ⟨isLeaf, .inr ⟨inner, inFields⟩⟩
          · exact .inr ⟨isLeaf, .inr ⟨later, inFields⟩⟩

end Fields

/-! ## Trees one after the other -/

/-- The trees of some records that are expanded one after the other, from the
directories scanned before to those scanned in the end. -/
inductive AreExpansions (setting : Setting) :
    Dependency.ScanCache → List Tree → Dependency.ScanCache → Prop
  | nil {cache : Dependency.ScanCache} : AreExpansions setting cache [] cache
  | cons
      {before between after : Dependency.ScanCache}
      {tree : Tree}
      {trees : List Tree}
      (first : tree.IsExpansion setting before between)
      (rest : AreExpansions setting between trees after) :
      AreExpansions setting before (tree :: trees) after

theorem AreExpansions.exists_isExpansion
    {setting : Setting}
    {before after : Dependency.ScanCache}
    {trees : List Tree}
    (expansions : AreExpansions setting before trees after)
    {tree : Tree}
    (present : tree ∈ trees) :
    ∃ start last, tree.IsExpansion setting start last := by
  induction expansions with
  | nil => cases present
  | cons first _ inductionHypothesis =>
      rcases List.mem_cons.mp present with rfl | later
      · exact ⟨_, _, first⟩
      · exact inductionHypothesis later

/-- Records that are expanded one after the other have trees, and the variables
are the leaves of these. -/
theorem exists_areExpansions_of_expandAll
    {setting : Setting}
    {expander : Expander}
    (follows : expander.Follows setting)
    {records : List Record}
    {state last : State}
    (idle : state.active = [])
    {entries : List Variable}
    (expanded : expandAll expander records state = (.ok entries, last)) :
    ∃ trees, trees.map Tree.record = records ∧
      AreExpansions setting state.cache trees last.cache ∧
      entries = (trees.flatMap Tree.leaves).map (Leaf.entry "") := by
  induction records generalizing state entries with
  | nil =>
      obtain ⟨⟨⟩, rfl⟩ := Prod.mk.inj expanded
      exact ⟨[], rfl, .nil, rfl⟩
  | cons record records inductionHypothesis =>
      rcases head : expander state "" record with ⟨error | first, middle⟩
      · simp [expandAll, head] at expanded
      rcases rest : expandAll expander records middle with
        ⟨error | others, final⟩
      · simp [expandAll, head, rest] at expanded
      simp only [expandAll, head, rest, Prod.mk.injEq, Except.ok.injEq]
        at expanded
      obtain ⟨rfl, rfl⟩ := expanded
      obtain ⟨branches, grown, harvest⟩ := follows (by simp [idle]) head
      obtain ⟨trees, areRecords, expansions, rfl⟩ :=
        inductionHypothesis (harvest.active_eq.trans idle) rest
      rw [idle] at grown
      refine ⟨⟨record, branches⟩ :: trees, by simp [areRecords],
        .cons grown expansions, ?_⟩
      rw [harvest.entries_eq, List.flatMap_cons, List.map_append]
      rfl

end Expansion

namespace Analysis

open Expansion (AreExpansions Leaf LeafField ContainerField Tree)

/-- The expansion trees of the roots of a project. -/
structure Forest (system : FileSystem) (request : Request) where
  /-- The project can be scanned. -/
  scanned : Scanned system request
  /-- The trees, in the order of the roots. -/
  trees : List Tree
  /-- The directories scanned in the end. -/
  last : Dependency.ScanCache
  /-- The trees are those of the roots. -/
  roots_eq : trees.map Tree.record = scanned.roots
  /-- The roots are expanded one after the other. -/
  expansions : AreExpansions scanned.setting [] trees last

namespace Forest

variable {system : FileSystem} {request : Request}

/-- The leaves of all trees. -/
def leaves (forest : Forest system request) : List Leaf :=
  forest.trees.flatMap Tree.leaves

/-- The records that are expanded in the trees. -/
def nodes (forest : Forest system request) : List Record :=
  forest.trees.flatMap Tree.nodes

/-- The leaves are described as such, and the fields on the way to them are
described as containers. -/
theorem described
    (forest : Forest system request)
    {leaf : Leaf}
    (present : leaf ∈ forest.leaves) :
    LeafField forest.scanned.setting leaf.field leaf.descriptor ∧
      ∀ container ∈ leaf.containers,
        ContainerField forest.scanned.setting container.1 container.2 := by
  obtain ⟨tree, inTrees, inTree⟩ := List.mem_flatMap.mp present
  obtain ⟨start, last, isTree⟩ :=
    forest.expansions.exists_isExpansion inTrees
  exact isTree.described leaf inTree

/-- The leaves are the leaf fields of the records that are expanded. -/
theorem exists_leaf_iff
    (forest : Forest system request)
    (record : Record)
    (field : Field)
    (descriptor : Tag.Descriptor) :
    (∃ leaf ∈ forest.leaves, leaf.IsOf record field descriptor) ↔
      record ∈ forest.nodes ∧ field ∈ record.fields ∧
        LeafField forest.scanned.setting field descriptor := by
  have ofTree : ∀ tree ∈ forest.trees,
      ((∃ leaf ∈ tree.leaves, leaf.IsOf record field descriptor) ↔
        record ∈ tree.nodes ∧ field ∈ record.fields ∧
          LeafField forest.scanned.setting field descriptor) := by
    intro tree inTrees
    obtain ⟨start, last, isTree⟩ :=
      forest.expansions.exists_isExpansion inTrees
    rw [Tree.leaves, isTree.exists_leaf_iff, Tree.nodes, List.mem_cons]
    constructor
    · rintro ⟨isLeaf, ⟨rfl, inFields⟩ | ⟨isNode, inFields⟩⟩
      · exact ⟨.inl rfl, inFields, isLeaf⟩
      · exact ⟨.inr isNode, inFields, isLeaf⟩
    · rintro ⟨rfl | isNode, inFields, isLeaf⟩
      · exact ⟨isLeaf, .inl ⟨rfl, inFields⟩⟩
      · exact ⟨isLeaf, .inr ⟨isNode, inFields⟩⟩
  rw [leaves, nodes, List.mem_flatMap]
  constructor
  · rintro ⟨leaf, present, isOf⟩
    obtain ⟨tree, inTrees, inTree⟩ := List.mem_flatMap.mp present
    obtain ⟨isNode, isLeaf⟩ := (ofTree tree inTrees).mp ⟨leaf, inTree, isOf⟩
    exact ⟨⟨tree, inTrees, isNode⟩, isLeaf⟩
  · rintro ⟨⟨tree, inTrees, isNode⟩, isLeaf⟩
    obtain ⟨leaf, inTree, isOf⟩ := (ofTree tree inTrees).mpr ⟨isNode, isLeaf⟩
    exact ⟨leaf, List.mem_flatMap.mpr ⟨tree, inTrees, inTree⟩, isOf⟩

end Forest

/-- A project whose analysis succeeds can be scanned. -/
theorem nonempty_scanned_of_run
    {system : FileSystem}
    {request : Request}
    {analysis : Analysis}
    (succeeded : run system request = .ok analysis) :
    Nonempty (Scanned system request) := by
  unfold run at succeeded
  cases read : Project.modulePath system request.root with
  | error error => simp [read] at succeeded
  | ok modulePath =>
      cases listed : Project.scan system request.root modulePath
          request.exclusions with
      | error error => simp [read, listed] at succeeded
      | ok files => exact ⟨⟨modulePath, files, read, listed⟩⟩

/-- An analysis that succeeds has the trees of its roots, and its variables are
their leaves. -/
theorem exists_forest
    {system : FileSystem}
    {request : Request}
    {analysis : Analysis}
    (succeeded : run system request = .ok analysis) :
    ∃ forest : Forest system request,
      analysis.entries = forest.leaves.map (Leaf.entry "") := by
  obtain ⟨scanned⟩ := nonempty_scanned_of_run succeeded
  rw [scanned.run_eq] at succeeded
  rcases expanded : expandRoots scanned.setting scanned.roots with
    ⟨error | entries, state⟩
  · simp [expanded] at succeeded
  · obtain ⟨trees, roots_eq, expansions, isEntries⟩ :=
      Expansion.exists_areExpansions_of_expandAll
        (Expansion.expandWithin_follows scanned.setting _) rfl expanded
    refine ⟨⟨scanned, trees, state.cache, roots_eq, expansions⟩, ?_⟩
    simp only [expanded, Except.ok.injEq] at succeeded
    rw [← succeeded]
    exact isEntries

end Analysis
end EnvTags
