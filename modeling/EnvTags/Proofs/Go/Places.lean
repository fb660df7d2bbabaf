import EnvTags.Go.Tree

/-!
# Places in a syntax tree

A node of a tree has a place: the numbers of the parts on the way from the root to
the node. Places are compared number by number, and a place comes before the places
below it. That is the order of the text, and the nodes of a tree are listed in it:
each node once, at its place.
-/

namespace EnvTags
namespace Go
namespace Node

/-- The parts of a node, in the order of the text. -/
def parts : Node → Forest
  | package _ => []
  | importSpec _ _ => []
  | typeSpec _ parameters type => parameters ++ [type]
  | structType fields => fields.map Prod.snd
  | group parts => parts

/-- Where a node stands in a tree: the numbers of the parts on the way to it. -/
abbrev Place := List Nat

/-- The node at a place. -/
def at? (node : Node) : Place → Option Node
  | [] => some node
  | index :: place => node.parts[index]?.bind fun part => part.at? place

@[simp] theorem at?_nil (node : Node) : node.at? [] = some node := by
  rw [at?]

@[simp] theorem at?_cons (node : Node) (index : Nat) (place : Place) :
    node.at? (index :: place) =
      node.parts[index]?.bind fun part => part.at? place := by
  rw [at?]

theorem sizeOf_lt_of_mem_parts
    {node part : Node}
    (isPart : part ∈ node.parts) :
    sizeOf part < sizeOf node := by
  cases node with
  | package => cases isPart
  | importSpec => cases isPart
  | typeSpec name parameters type =>
      rcases List.mem_append.mp isPart with inParameters | isType
      · have := List.sizeOf_lt_of_mem inParameters
        simp only [typeSpec.sizeOf_spec]
        omega
      · obtain rfl := List.mem_singleton.mp isType
        simp only [typeSpec.sizeOf_spec]
        omega
  | structType fields =>
      obtain ⟨⟨header, type⟩, inFields, rfl⟩ := List.mem_map.mp isPart
      have := List.sizeOf_lt_of_mem inFields
      simp only [structType.sizeOf_spec, Prod.mk.sizeOf_spec] at this ⊢
      omega
  | group nodes =>
      have : sizeOf part < sizeOf nodes := List.sizeOf_lt_of_mem isPart
      simp only [group.sizeOf_spec]
      omega

/-- What passes from the parts of a node to the node holds of every tree. -/
@[elab_as_elim]
theorem inductionOnParts
    {holds : Node → Prop}
    (node : Node)
    (step : ∀ node, (∀ part ∈ node.parts, holds part) → holds node) :
    holds node :=
  step node fun part _ => inductionOnParts part step
termination_by sizeOf node
decreasing_by exact sizeOf_lt_of_mem_parts (by assumption)

/-! ## The listing of all nodes -/

theorem preorderAll_append
    (left right : Forest) :
    preorderAll (left ++ right) = preorderAll left ++ preorderAll right := by
  induction left with
  | nil => rfl
  | cons node left inductionHypothesis =>
      simp [preorderAll, inductionHypothesis]

theorem preorderFields_eq_preorderAll
    (fields : List (FieldHeader × Node)) :
    preorderFields fields = preorderAll (fields.map Prod.snd) := by
  induction fields with
  | nil => rfl
  | cons field fields inductionHypothesis =>
      obtain ⟨header, type⟩ := field
      simp [preorderFields, preorderAll, inductionHypothesis]

/-- A node is listed before its parts. -/
theorem preorder_eq_cons (node : Node) :
    preorder node = node :: preorderAll node.parts := by
  cases node with
  | package => rfl
  | importSpec => rfl
  | typeSpec name parameters type =>
      simp [preorder, parts, preorderAll_append, preorderAll]
  | structType fields => rw [preorder, parts, preorderFields_eq_preorderAll]
  | group => rfl

/-- Some values are given by the nodes of a tree: each by the node at its place, in
the order of the places, and for every place where one is given. -/
def Enumerates {α : Type} (root : Node) (Gives : Node → α → Prop) (values : List α) :
    Prop :=
  ∃ placed : List (Place × α), placed.map Prod.snd = values ∧
    placed.Pairwise (fun left right => left.1 < right.1) ∧
    ∀ place value, (place, value) ∈ placed ↔
      ∃ node, root.at? place = some node ∧ Gives node value

/-- The nodes of the parts are listed if the nodes of each part are. Places below a
part start with its number. -/
theorem exists_placed_preorderAll
    {nodes : Forest}
    (each : ∀ node ∈ nodes, Enumerates node Eq (preorder node))
    (start : Nat) :
    ∃ placed : List (Place × Node), placed.map Prod.snd = preorderAll nodes ∧
      placed.Pairwise (fun left right => left.1 < right.1) ∧
      ∀ place node, (place, node) ∈ placed ↔
        ∃ index below, place = (start + index) :: below ∧
          (nodes[index]?.bind fun part => part.at? below) = some node := by
  induction nodes generalizing start with
  | nil => exact ⟨[], rfl, .nil, by simp⟩
  | cons first nodes inductionHypothesis =>
      obtain ⟨eachFirst, eachOther⟩ := List.forall_mem_cons.mp each
      obtain ⟨inFirst, nodesOfFirst, firstAscends, mem_inFirst⟩ := eachFirst
      obtain ⟨inOthers, nodesOfOthers, othersAscend, mem_inOthers⟩ :=
        inductionHypothesis eachOther (start + 1)
      refine ⟨inFirst.map (Prod.map (start :: ·) id) ++ inOthers, ?_, ?_, ?_⟩
      · rw [List.map_append, List.map_map, preorderAll, ← nodesOfFirst, ← nodesOfOthers]
        rfl
      · rw [List.pairwise_append, List.pairwise_map]
        refine ⟨firstAscends.imp fun less => ?_, othersAscend, ?_⟩
        · exact List.cons_lt_cons_iff.mpr (.inr ⟨rfl, less⟩)
        · rintro left inLeft ⟨place, node⟩ inRight
          obtain ⟨⟨below, found⟩, -, rfl⟩ := List.mem_map.mp inLeft
          obtain ⟨index, deeper, rfl, -⟩ := (mem_inOthers place node).mp inRight
          exact List.cons_lt_cons_iff.mpr (.inl (by omega))
      · intro place node
        rw [List.mem_append, List.mem_map, mem_inOthers]
        constructor
        · rintro (⟨⟨below, found⟩, inside, same⟩ | ⟨index, below, rfl, found⟩)
          · obtain ⟨rfl, rfl⟩ := Prod.mk.inj same
            obtain ⟨other, isAt, rfl⟩ := (mem_inFirst below found).mp inside
            exact ⟨0, below, rfl, isAt⟩
          · exact ⟨index + 1, below, by rw [Nat.add_right_comm, Nat.add_assoc], found⟩
        · rintro ⟨index, below, rfl, found⟩
          cases index with
          | zero =>
              exact .inl ⟨(below, node), (mem_inFirst below node).mpr ⟨node, found, rfl⟩,
                rfl⟩
          | succ index =>
              exact .inr ⟨index, below, by rw [Nat.add_right_comm, Nat.add_assoc], found⟩

/-- The nodes of a tree are listed in the order of their places. -/
theorem enumerates_preorder (root : Node) : root.Enumerates Eq (preorder root) := by
  induction root using inductionOnParts with
  | step node inductionHypothesis =>
      obtain ⟨inParts, nodesOfParts, ascends, mem_inParts⟩ :=
        exists_placed_preorderAll inductionHypothesis 0
      refine ⟨([], node) :: inParts, ?_, ?_, ?_⟩
      · rw [List.map_cons, nodesOfParts, preorder_eq_cons]
      · refine List.pairwise_cons.mpr ⟨?_, ascends⟩
        rintro ⟨place, found⟩ inside
        obtain ⟨index, below, rfl, -⟩ := (mem_inParts place found).mp inside
        exact List.nil_lt_cons _ _
      · intro place found
        rw [List.mem_cons, mem_inParts]
        cases place with
        | nil => simp [eq_comm]
        | cons index place =>
            simp only [reduceCtorEq, Prod.mk.injEq, false_and, false_or, Nat.zero_add,
              List.cons.injEq, at?_cons, exists_eq_right]
            constructor
            · rintro ⟨_, _, ⟨rfl, rfl⟩, isAt⟩
              exact isAt
            · intro isAt
              exact ⟨index, place, ⟨rfl, rfl⟩, isAt⟩

/-- What a function gives for the listed nodes is given in the order of the places. -/
theorem enumerates_filterMap
    {α : Type}
    {give : Node → Option α}
    {Gives : Node → α → Prop}
    (gives_iff : ∀ node value, give node = some value ↔ Gives node value)
    (root : Node) :
    root.Enumerates Gives ((preorder root).filterMap give) := by
  obtain ⟨placed, nodes, ascends, mem_placed⟩ := enumerates_preorder root
  refine ⟨placed.filterMap fun entry => (give entry.2).map fun value =>
    (entry.1, value), ?_, ?_, ?_⟩
  · rw [← nodes, List.filterMap_map, List.map_filterMap]
    congr 1
    funext entry
    cases given : give entry.2 <;> simp [given]
  · refine ascends.filterMap _ ?_
    intro left right less leftValue isLeft rightValue isRight
    obtain ⟨_, -, rfl⟩ := Option.map_eq_some_iff.mp isLeft
    obtain ⟨_, -, rfl⟩ := Option.map_eq_some_iff.mp isRight
    exact less
  · intro place value
    rw [List.mem_filterMap]
    constructor
    · rintro ⟨⟨_, node⟩, inside, given⟩
      obtain ⟨_, isGiven, same⟩ := Option.map_eq_some_iff.mp given
      obtain ⟨rfl, rfl⟩ := Prod.mk.inj same
      obtain ⟨_, isAt, rfl⟩ := (mem_placed _ node).mp inside
      exact ⟨_, isAt, (gives_iff _ _).mp isGiven⟩
    · rintro ⟨node, isAt, gives⟩
      refine ⟨(place, node), (mem_placed place node).mpr ⟨node, isAt, rfl⟩, ?_⟩
      rw [(gives_iff node value).mpr gives]
      rfl

end Node
end Go
end EnvTags
