import EnvTags.Record
import EnvTags.Tag.Descriptor

/-!
# The reference graph

The graph has a node for the first record with each key, in the order of discovery,
and an index that leads from the key to the place of the node. It is built in three
passes: all records are inserted, the places that their fields refer to are looked up
in the index, and each of these references is added to the count of its node. A field
refers to a node if its type is the unqualified name of another record of its package.
The roots are the records that nothing refers to and all of whose fields are described
by their tags.
-/

namespace EnvTags

/-- A node of a graph. -/
structure Graph.Node where
  /-- The record. -/
  record : Record
  /-- How many fields of other records have been counted as references to it. -/
  refCount : Nat := 0

namespace Graph.Node

/-- What the record of a node is known by. -/
def key (node : Node) : Key :=
  node.record.key

/-- A node with one more reference. -/
def referenced (node : Node) : Node :=
  { node with refCount := node.refCount + 1 }

/-- Whether the tags of all fields of a record describe them. -/
def isFullyDescribed (scheme : Tag.Scheme) (node : Node) : Bool :=
  node.record.fields.all fun field => (scheme.describe field.tag).isSome

end Graph.Node

/-- The records of a project, each with its references. -/
structure Graph where
  /-- The nodes in the order of discovery. -/
  nodes : List Graph.Node
  /-- The places of the nodes, by their keys. -/
  index : List (Key × Nat)
  /-- The index leads from a key to the place of the node that has it, and from no
  other key to any place. -/
  lookup_eq_some_iff : ∀ key place,
    index.lookup key = some place ↔ nodes[place]?.map Graph.Node.key = some key

namespace Graph

/-- The graph of no records. -/
def empty : Graph where
  nodes := []
  index := []
  lookup_eq_some_iff := by simp

/-- The place of the node with a key. -/
def place? (graph : Graph) (key : Key) : Option Nat :=
  graph.index.lookup key

/-- The node with a key. -/
def node? (graph : Graph) (key : Key) : Option Node :=
  (graph.place? key).bind fun place => graph.nodes[place]?

/-- The record with a key. -/
def find? (graph : Graph) (key : Key) : Option Record :=
  (graph.node? key).map Node.record

/-- The records in the order of discovery. -/
def records (graph : Graph) : List Record :=
  graph.nodes.map Node.record

/-! ## The three passes -/

/-- A new key gets the place behind all nodes. -/
theorem lookup_insert
    (graph : Graph)
    {record : Record}
    (unknown : graph.place? record.key = none)
    (key : Key)
    (place : Nat) :
    ((record.key, graph.nodes.length) :: graph.index).lookup key = some place ↔
      (graph.nodes ++ [{ record := record }])[place]?.map Node.key = some key := by
  have before := graph.lookup_eq_some_iff key place
  rw [List.lookup_cons]
  by_cases same : key = record.key
  · subst same
    rw [show graph.index.lookup record.key = none from unknown] at before
    rcases Nat.lt_trichotomy place graph.nodes.length with inside | atEnd | beyond
    · rw [List.getElem?_append_left inside, ← before]
      simp [Nat.ne_of_gt inside]
    · simp [atEnd, Node.key]
    · rw [List.getElem?_eq_none (by simpa using Nat.succ_le_of_lt beyond)]
      simp [Nat.ne_of_lt beyond]
  · rw [beq_eq_false_iff_ne.mpr same]
    rcases Nat.lt_trichotomy place graph.nodes.length with inside | atEnd | beyond
    · rw [List.getElem?_append_left inside]
      exact before
    · rw [List.getElem?_eq_none (Nat.le_of_eq atEnd.symm)] at before
      simpa [atEnd, Node.key, Ne.symm same] using before
    · rw [List.getElem?_eq_none (Nat.le_of_lt beyond)] at before
      rw [List.getElem?_eq_none (by simpa using Nat.succ_le_of_lt beyond)]
      exact before

/-- A graph with one more record, unless it has a record with the key. -/
def insert (graph : Graph) (record : Record) : Graph :=
  match unknown : graph.place? record.key with
  | some _ => graph
  | none =>
      { nodes := graph.nodes ++ [{ record := record }]
        index := (record.key, graph.nodes.length) :: graph.index
        lookup_eq_some_iff := graph.lookup_insert unknown }

/-- The place of another node to which a field of the node at a place refers. -/
def reference? (graph : Graph) (own : Nat) (record : Record) (field : Field) :
    Option Nat :=
  match field.typeRef with
  | .unqualified name =>
      (graph.place? ⟨record.package, name⟩).filter fun place => place ≠ own
  | _ => none

/-- The places to which the fields of all nodes refer, one for each reference. -/
def referencedPlaces (graph : Graph) : List Nat :=
  graph.nodes.zipIdx.flatMap fun (node, own) =>
    node.record.fields.filterMap (graph.reference? own node.record)

/-- A graph with one more reference to the node at a place. -/
def count (graph : Graph) (place : Nat) : Graph where
  nodes := graph.nodes.modify place Node.referenced
  index := graph.index
  lookup_eq_some_iff key other := by
    rw [graph.lookup_eq_some_iff, List.getElem?_modify, Option.map_eq_map,
      Option.map_map]
    suffices same : (Node.key ∘ fun node =>
        if place = other then node.referenced else node) = Node.key by
      rw [same]
    funext node
    dsimp only [Function.comp]
    split <;> rfl

/-- The graph of some records, discovered one after the other. -/
def ofRecords (records : List Record) : Graph :=
  let inserted := records.foldl insert empty
  inserted.referencedPlaces.foldl count inserted

/-- The graph of the records in some source files. -/
def ofFiles (files : List SourceFile) : Graph :=
  ofRecords (files.flatMap SourceFile.records)

/-! ## Roots -/

/-- How many fields refer to a record. -/
def refCount (graph : Graph) (record : Record) : Nat :=
  ((graph.node? record.key).map Node.refCount).getD 0

/-- The records where a result starts, in the order of discovery. -/
def roots (graph : Graph) (scheme : Tag.Scheme) : List Record :=
  ((graph.nodes.filter fun node => node.refCount = 0).filter
    (Node.isFullyDescribed scheme)).map Node.record

end Graph
end EnvTags
