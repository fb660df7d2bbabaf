import EnvTags.Graph
import EnvTags.Proofs.Record

/-!
# The records of a graph

The index of a graph leads to the one node with a key, so a look-up is a search among
the records. Records that are inserted one after the other leave the first one with
each key, and counting references changes no record.
-/

namespace EnvTags
namespace Graph

/-! ## The index -/

section Index

variable (graph : Graph)

theorem place?_eq_some_iff (key : Key) (place : Nat) :
    graph.place? key = some place ↔
      ∃ inRange : place < graph.nodes.length,
        (graph.nodes.get ⟨place, inRange⟩).key = key := by
  rw [place?, graph.lookup_eq_some_iff, Option.map_eq_some_iff]
  simp only [List.getElem?_eq_some_iff, List.get_eq_getElem]
  constructor
  · rintro ⟨node, ⟨inRange, rfl⟩, hasKey⟩
    exact ⟨inRange, hasKey⟩
  · rintro ⟨inRange, hasKey⟩
    exact ⟨_, ⟨inRange, rfl⟩, hasKey⟩

/-- A key has one place. -/
theorem place_eq_of_key_eq
    {left right : Fin graph.nodes.length}
    (same : (graph.nodes.get left).key = (graph.nodes.get right).key) :
    left = right := by
  have atLeft := (graph.place?_eq_some_iff _ left).mpr ⟨left.isLt, same⟩
  have atRight := (graph.place?_eq_some_iff _ right).mpr ⟨right.isLt, rfl⟩
  exact Fin.ext (Option.some.inj (atLeft.symm.trans atRight))

/-- The index finds the node that a search through all nodes finds. -/
theorem node?_eq_find? (key : Key) :
    graph.node? key = graph.nodes.find? fun node => node.key = key := by
  cases placed : graph.place? key with
  | some place =>
      obtain ⟨inRange, hasKey⟩ := (graph.place?_eq_some_iff key place).mp placed
      rw [node?, placed, Option.bind_some, List.getElem?_eq_getElem inRange, eq_comm,
        List.find?_eq_some_iff_getElem]
      refine ⟨by simpa using hasKey, place, inRange, rfl, ?_⟩
      intro earlier before
      simp only [Bool.not_eq_true', decide_eq_false_iff_not]
      intro alsoKey
      have samePlace : (⟨earlier, Nat.lt_trans before inRange⟩ : Fin _) =
          ⟨place, inRange⟩ :=
        graph.place_eq_of_key_eq (alsoKey.trans hasKey.symm)
      exact Nat.ne_of_lt before (Fin.mk.inj samePlace)
  | none =>
      rw [node?, placed, Option.bind_none, eq_comm, List.find?_eq_none]
      intro node present hasKey
      obtain ⟨place, inRange, rfl⟩ := List.getElem_of_mem present
      have found := (graph.place?_eq_some_iff key place).mpr
        ⟨inRange, of_decide_eq_true hasKey⟩
      rw [placed] at found
      cases found

/-- A look-up is a search through the records. -/
theorem find?_eq_find?_records (key : Key) :
    graph.find? key = graph.records.find? fun record => record.key = key := by
  rw [find?, node?_eq_find?, records, List.find?_map]
  rfl

end Index

/-- The record that is found is in the graph and has the key. -/
theorem find?_eq_some
    {graph : Graph}
    {key : Key}
    {record : Record}
    (found : graph.find? key = some record) :
    record ∈ graph.records ∧ record.key = key := by
  rw [find?_eq_find?_records] at found
  exact ⟨List.mem_of_find?_eq_some found, by simpa using List.find?_some found⟩

/-! ## The first pass -/

theorem place?_eq_none_iff (graph : Graph) (key : Key) :
    graph.place? key = none ↔ ∀ record ∈ graph.records, record.key ≠ key := by
  rw [Option.eq_none_iff_forall_not_mem, records, List.forall_mem_map,
    List.forall_mem_iff_forall_getElem]
  simp only [Option.mem_def, place?_eq_some_iff, not_exists]
  rfl

theorem records_insert (graph : Graph) (record : Record) :
    (graph.insert record).records =
      if ∀ earlier ∈ graph.records, earlier.key ≠ record.key then
        graph.records ++ [record]
      else graph.records := by
  rw [insert]
  split
  case h_1 place known =>
    rw [if_neg]
    rw [← place?_eq_none_iff, known]
    nofun
  case h_2 unknown =>
    rw [if_pos ((graph.place?_eq_none_iff _).mp unknown), records, List.map_append]
    rfl

/-- The inserted records that are kept are the first ones with their keys. -/
theorem records_foldl_insert (discovered : List Record) :
    (discovered.foldl insert empty).records = Record.firstBy Record.key discovered := by
  induction discovered using List.reverseRecOn with
  | nil => rfl
  | append_singleton earlier record inductionHypothesis =>
      rw [List.foldl_append, List.foldl_cons, List.foldl_nil, records_insert,
        inductionHypothesis, Record.firstBy_append]
      have first_iff : (∀ other ∈ Record.firstBy Record.key earlier,
          other.key ≠ record.key) ↔ ∀ other ∈ earlier, other.key ≠ record.key := by
        constructor
        · intro apart other present
          obtain ⟨first, isFirst, sameKey⟩ :=
            Record.exists_mem_firstBy Record.key present
          rw [← sameKey]
          exact apart first isFirst
        · intro apart other isFirst
          exact apart other (Record.mem_of_mem_firstBy isFirst)
      simp only [first_iff, Record.firstBy, List.filter_cons, List.filter_nil,
        decide_eq_true_eq]
      split <;> simp

/-! ## Counting -/

/-- Counting adds to each node how often its place is counted. -/
theorem getElem?_foldl_count (graph : Graph) (places : List Nat) (place : Nat) :
    (places.foldl count graph).nodes[place]? =
      graph.nodes[place]?.map fun node =>
        { node with refCount := node.refCount + places.count place } := by
  induction places generalizing graph with
  | nil => simp
  | cons counted places inductionHypothesis =>
      rw [List.foldl_cons, inductionHypothesis, count, List.getElem?_modify,
        Option.map_eq_map, Option.map_map, List.count_cons]
      congr 1
      funext node
      by_cases same : counted = place
      · simp [same, Node.referenced, Nat.add_assoc, Nat.add_comm 1]
      · simp [same]

theorem records_foldl_count (graph : Graph) (places : List Nat) :
    (places.foldl count graph).records = graph.records := by
  apply List.ext_getElem?
  intro place
  rw [records, records, List.getElem?_map, List.getElem?_map, getElem?_foldl_count,
    Option.map_map]
  rfl

/-! ## The graph of some records -/

theorem records_ofRecords (discovered : List Record) :
    (ofRecords discovered).records = Record.firstBy Record.key discovered := by
  rw [ofRecords, records_foldl_count, records_foldl_insert]

/-- A record that is looked up is the one that was discovered first. -/
theorem find?_ofRecords (discovered : List Record) (key : Key) :
    (ofRecords discovered).find? key =
      discovered.find? fun record => record.key = key := by
  rw [find?_eq_find?_records, records_ofRecords, Record.find?_firstBy]

theorem records_ofFiles (files : List SourceFile) :
    (ofFiles files).records =
      Record.firstBy Record.key (files.flatMap SourceFile.records) :=
  records_ofRecords _

/-- The records of a graph are declared in its files. -/
theorem mem_of_mem_records_ofFiles
    {files : List SourceFile}
    {record : Record}
    (inGraph : record ∈ (ofFiles files).records) :
    record ∈ files.flatMap SourceFile.records := by
  rw [records_ofFiles] at inGraph
  exact Record.mem_of_mem_firstBy inGraph

/-- The roots are some of the records, in their order. -/
theorem sublist_roots (graph : Graph) (scheme : Tag.Scheme) :
    (graph.roots scheme).Sublist graph.records :=
  (List.filter_sublist.trans List.filter_sublist).map _

end Graph
end EnvTags
