import EnvTags.Proofs.Graph.Index
import Mathlib.Algebra.BigOperators.Fin
import Mathlib.Data.Fintype.Sigma
import Mathlib.Data.List.Nodup

/-!
# What the graph of a project is

What the references add to the count of a node is the number of times its place is
among theirs. Since the keys of the nodes are different, these are the fields in all
other places of the package that mention the record. The main statement describes
nodes, look-ups, counts and roots of a graph by the places of its records and fields.
-/

namespace EnvTags
namespace Graph

/-- The place of a field: that of its record, and its own place in the record. -/
abbrev FieldPlace (graph : Graph) : Type :=
  (place : Fin graph.nodes.length) ×
    Fin (graph.nodes.get place).record.fields.length

/-- The record of the field at a place. -/
def FieldPlace.record {graph : Graph} (place : graph.FieldPlace) : Record :=
  (graph.nodes.get place.1).record

/-- The field at a place. -/
def FieldPlace.field {graph : Graph} (place : graph.FieldPlace) : Field :=
  place.record.fields.get place.2

/-- The fields in other places of the package of a record whose type is the
unqualified name of the record. -/
def references (graph : Graph) (target : Fin graph.nodes.length) :
    Finset graph.FieldPlace :=
  {place | place.1 ≠ target ∧
    place.record.package = (graph.nodes.get target).record.package ∧
    place.field.typeRef = .unqualified (graph.nodes.get target).record.name}

/-- What makes a graph that of some records, discovered one after the other. -/
structure IsGraphOf (discovered : List Record) (graph : Graph) : Prop where
  /-- The graph has the first record with each key, in the order of discovery. -/
  records_eq : graph.records = Record.firstOccurrences Record.key discovered
  /-- No two of its nodes have one key. -/
  nodup_keys : (graph.nodes.map Node.key).Nodup
  /-- For every key the record that was discovered first is found. -/
  find?_eq : ∀ key,
    graph.find? key = discovered.find? fun record => record.key = key
  /-- It is found with the node of the key. -/
  node?_eq : ∀ key,
    graph.node? key = graph.nodes.find? fun node => node.key = key
  /-- The place of a key is in range and has the key, and no other place has. -/
  place?_eq_some_iff : ∀ key place,
    graph.place? key = some place ↔
      ∃ inRange : place < graph.nodes.length,
        (graph.nodes.get ⟨place, inRange⟩).key = key
  /-- Every field in another place that mentions a record is counted for it. -/
  refCount_eq : ∀ target,
    (graph.nodes.get target).refCount = (graph.references target).card

/-- What makes some records the roots of a graph. -/
structure AreRootsOf
    (scheme : Tag.Scheme)
    (graph : Graph)
    (roots : List Record) : Prop where
  /-- They are in the order of discovery. -/
  sublist : roots.Sublist graph.records
  /-- Each of them is listed once. -/
  nodup_keys : (roots.map Record.key).Nodup
  /-- They are the records that nothing refers to and all of whose fields are
  described. -/
  mem_iff : ∀ place,
    (graph.nodes.get place).record ∈ roots ↔
      (graph.nodes.get place).refCount = 0 ∧
        ∀ field ∈ (graph.nodes.get place).record.fields,
          ∃ described, scheme.describe field.tag = some described

/-! ## Keys -/

/-- No two nodes have one key, since the index leads to one place. -/
theorem nodup_keys (graph : Graph) : (graph.nodes.map Node.key).Nodup := by
  rw [List.nodup_iff_injective_get]
  intro left right same
  have samePlace : (left.cast (by simp) : Fin graph.nodes.length) =
      right.cast (by simp) :=
    graph.place_eq_of_key_eq (by simpa using same)
  simpa [Fin.ext_iff] using samePlace

theorem map_key_records (graph : Graph) :
    graph.records.map Record.key = graph.nodes.map Node.key := by
  rw [records, List.map_map]
  rfl

/-! ## The references -/

/-- The places of the references depend on the records and the index alone. -/
theorem referencedPlaces_foldl_count (graph : Graph) (places : List Nat) :
    (places.foldl count graph).referencedPlaces = graph.referencedPlaces := by
  have byRecords : ∀ other : Graph, other.referencedPlaces =
      other.records.zipIdx.flatMap fun (record, own) =>
        record.fields.filterMap (other.reference? own record) := by
    intro other
    rw [referencedPlaces, records, List.zipIdx_map, List.flatMap_map]
    rfl
  have sameIndex : (places.foldl count graph).index = graph.index := by
    induction places generalizing graph with
    | nil => rfl
    | cons place places inductionHypothesis => exact inductionHypothesis _
  have sameReference : (places.foldl count graph).reference? = graph.reference? := by
    funext own record field
    rw [reference?, reference?]
    simp only [place?, sameIndex]
  rw [byRecords, byRecords, records_foldl_count, sameReference]

section References

variable (graph : Graph)

/-- A field refers to the other node of its package that its type names. -/
theorem reference?_eq_some_iff
    (own target : Fin graph.nodes.length)
    (field : Field) :
    graph.reference? own (graph.nodes.get own).record field = some target.val ↔
      own ≠ target ∧
        (graph.nodes.get own).record.package =
          (graph.nodes.get target).record.package ∧
        field.typeRef = .unqualified (graph.nodes.get target).record.name := by
  rw [reference?]
  cases field.typeRef with
  | unqualified name =>
      rw [Option.filter_eq_some_iff, place?_eq_some_iff, decide_eq_true_eq]
      constructor
      · rintro ⟨⟨_, hasKey⟩, otherPlace⟩
        obtain ⟨samePackage, isName⟩ := Key.mk.inj hasKey
        exact ⟨fun same => otherPlace (congrArg Fin.val same.symm), samePackage.symm,
          congrArg _ isName.symm⟩
      · rintro ⟨otherPlace, samePackage, isName⟩
        rw [TypeRef.unqualified.inj isName, samePackage]
        exact ⟨⟨target.isLt, rfl⟩, fun same => otherPlace (Fin.ext same.symm)⟩
  | builtin | qualified | composite => simp

theorem sum_places_eq_countP
    {α : Type}
    (holds : α → Bool)
    (items : List α) :
    (∑ place : Fin items.length, if holds (items.get place) then 1 else 0) =
      items.countP holds := by
  have summed := Fin.sum_univ_fun_getElem items fun item =>
    if holds item then 1 else 0
  rw [List.sum_map_ite] at summed
  simpa [List.countP_eq_length_filter] using summed

theorem mem_references_iff
    (target own : Fin graph.nodes.length)
    (inner : Fin (graph.nodes.get own).record.fields.length) :
    (⟨own, inner⟩ : graph.FieldPlace) ∈ graph.references target ↔
      own ≠ target ∧
        (graph.nodes.get own).record.package =
          (graph.nodes.get target).record.package ∧
        ((graph.nodes.get own).record.fields.get inner).typeRef =
          .unqualified (graph.nodes.get target).record.name := by
  rw [references, Finset.mem_filter_univ]
  rfl

/-- The place of a node is referred to as often as there are references to it. -/
theorem count_referencedPlaces (target : Fin graph.nodes.length) :
    graph.referencedPlaces.count target.val = (graph.references target).card := by
  have enumerated : graph.nodes.zipIdx = List.ofFn fun own : Fin graph.nodes.length =>
      (graph.nodes.get own, own.val) :=
    List.ext_getElem (by simp) (by simp)
  calc graph.referencedPlaces.count target.val
      = ∑ own : Fin graph.nodes.length,
          (graph.nodes.get own).record.fields.countP fun field =>
            graph.reference? own (graph.nodes.get own).record field ==
              some target.val := by
        rw [referencedPlaces, List.count_flatMap, enumerated, List.map_ofFn,
          List.sum_ofFn]
        simp only [Function.comp_def, List.count_filterMap]
    _ = ∑ place : graph.FieldPlace,
          if place ∈ graph.references target then 1 else 0 := by
        rw [Fintype.sum_sigma]
        refine Finset.sum_congr rfl fun own _ => ?_
        rw [← sum_places_eq_countP]
        refine Finset.sum_congr rfl fun inner _ => ?_
        simp only [beq_iff_eq, reference?_eq_some_iff, mem_references_iff]
    _ = (graph.references target).card := by
        rw [Finset.card_eq_sum_ones, Finset.sum_ite_mem, Finset.univ_inter]

end References

/-! ## The counts -/

theorem refCount_foldl_insert
    (discovered : List Record) :
    ∀ node ∈ (discovered.foldl insert empty).nodes, node.refCount = 0 := by
  induction discovered using List.reverseRecOn with
  | nil => nofun
  | append_singleton earlier record inductionHypothesis =>
      rw [List.foldl_append, List.foldl_cons, List.foldl_nil, insert]
      split
      case h_1 => exact inductionHypothesis
      case h_2 =>
        rw [List.forall_mem_append]
        exact ⟨inductionHypothesis, by simp⟩

/-- The count of a node is the number of references to it. -/
theorem refCount_ofRecords
    (discovered : List Record)
    (target : Fin (ofRecords discovered).nodes.length) :
    ((ofRecords discovered).nodes.get target).refCount =
      ((ofRecords discovered).references target).card := by
  have counted : some ((ofRecords discovered).nodes.get target) = _ :=
    (List.getElem?_eq_getElem target.isLt).symm.trans
      (getElem?_foldl_count (discovered.foldl insert empty) _ target)
  obtain ⟨node, isInserted, isCounted⟩ := Option.map_eq_some_iff.mp counted.symm
  have samePlaces : (ofRecords discovered).referencedPlaces =
      (discovered.foldl insert empty).referencedPlaces :=
    referencedPlaces_foldl_count _ _
  rw [← isCounted, ← count_referencedPlaces, samePlaces,
    refCount_foldl_insert discovered node (List.mem_of_getElem? isInserted), zero_add]

/-! ## Roots -/

/-- The roots of a graph are the records without references whose fields are all
described. -/
theorem areRootsOf_roots (graph : Graph) (scheme : Tag.Scheme) :
    AreRootsOf scheme graph (graph.roots scheme) where
  sublist := graph.sublist_roots scheme
  nodup_keys := by
    refine List.Nodup.sublist ((graph.sublist_roots scheme).map _) ?_
    rw [map_key_records]
    exact graph.nodup_keys
  mem_iff place := by
    rw [roots, List.filter_filter, List.mem_map]
    simp only [List.mem_filter, Bool.and_eq_true, decide_eq_true_eq,
      Node.isFullyDescribed, List.all_eq_true, Option.isSome_iff_exists]
    constructor
    · rintro ⟨node, ⟨present, described, unreferenced⟩, sameRecord⟩
      obtain ⟨other, rfl⟩ := List.get_of_mem present
      have samePlace := graph.place_eq_of_key_eq (congrArg Record.key sameRecord)
      subst samePlace
      exact ⟨unreferenced, described⟩
    · rintro ⟨unreferenced, described⟩
      exact ⟨_, ⟨List.get_mem _ _, described, unreferenced⟩, rfl⟩

/-- The graph of some files has the first record with each key, finds it for the
key, and counts for each record the fields of the others that refer to it. Its
roots are the records without references all of whose fields are described. -/
theorem isGraphOf_ofFiles (files : List SourceFile) (scheme : Tag.Scheme) :
    IsGraphOf (files.flatMap SourceFile.records) (ofFiles files) ∧
      AreRootsOf scheme (ofFiles files) ((ofFiles files).roots scheme) := by
  refine ⟨?_, areRootsOf_roots _ scheme⟩
  exact {
    records_eq := by
      rw [ofFiles, records_ofRecords, Record.firstBy_eq_firstOccurrences]
    nodup_keys := nodup_keys _
    find?_eq := find?_ofRecords _
    node?_eq := node?_eq_find? _
    place?_eq_some_iff := place?_eq_some_iff _
    refCount_eq := refCount_ofRecords _ }

end Graph
end EnvTags
