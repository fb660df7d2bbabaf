import EnvTags.Proofs.FileSystem.Names
import EnvTags.Proofs.Name
import Mathlib.Data.List.Nodup

/-!
# Entries in the order of their names

Sorting by name permutes the entries and puts them in order, and neither changes
entries that are in order nor which entry has a name. The names alone fix the
order in which they are listed; the entries do so if their names are different.
-/

namespace EnvTags
namespace Entry

/-- The names of some entries never go down. -/
def InOrder (entries : List (Name × Entry)) : Prop :=
  entries.Pairwise fun left right => left.1 ≤ right.1

theorem perm_insertByName
    (entry : Name × Entry)
    (entries : List (Name × Entry)) :
    (insertByName entry entries).Perm (entry :: entries) := by
  induction entries with
  | nil => exact .refl _
  | cons first entries inductionHypothesis =>
      unfold insertByName
      split
      · exact (inductionHypothesis.cons first).trans (.swap entry first entries)
      · exact .refl _

/-- Sorting keeps all entries. -/
theorem perm_sortByName (entries : List (Name × Entry)) :
    (sortByName entries).Perm entries := by
  induction entries with
  | nil => exact .refl _
  | cons entry entries inductionHypothesis =>
      exact (perm_insertByName entry _).trans (inductionHypothesis.cons entry)

theorem inOrder_insertByName
    {entries : List (Name × Entry)}
    (inOrder : InOrder entries)
    (entry : Name × Entry) :
    InOrder (insertByName entry entries) := by
  induction entries with
  | nil => exact List.pairwise_singleton _ _
  | cons first entries inductionHypothesis =>
      obtain ⟨before, rest⟩ := List.pairwise_cons.mp inOrder
      unfold insertByName
      split
      · rename_i smaller
        refine .cons ?_ (inductionHypothesis rest)
        intro other present
        rcases mem_insertByName.mp present with rfl | later
        · exact smaller.le
        · exact before other later
      · rename_i notSmaller
        refine .cons ?_ inOrder
        intro other present
        rcases List.mem_cons.mp present with rfl | later
        · exact not_lt.mp notSmaller
        · exact (not_lt.mp notSmaller).trans (before other later)

/-- Sorted entries are in order. -/
theorem inOrder_sortByName (entries : List (Name × Entry)) :
    InOrder (sortByName entries) := by
  induction entries with
  | nil => exact .nil
  | cons entry entries inductionHypothesis =>
      exact inOrder_insertByName inductionHypothesis entry

/-- The names of sorted entries are the names in their order. -/
theorem eq_map_fst_sortByName_iff
    {names : List Name}
    {entries : List (Name × Entry)} :
    names = (sortByName entries).map Prod.fst ↔
      names.Perm (entries.map Prod.fst) ∧ names.Pairwise (· ≤ ·) := by
  have inOrder : ((sortByName entries).map Prod.fst).Pairwise (· ≤ ·) :=
    List.pairwise_map.mpr (inOrder_sortByName entries)
  have permuted := (perm_sortByName entries).map Prod.fst
  constructor
  · rintro rfl
    exact ⟨permuted, inOrder⟩
  · rintro ⟨samePerm, alsoInOrder⟩
    exact (samePerm.trans permuted.symm).eq_of_pairwise
      (fun _ _ _ _ => le_antisymm) alsoInOrder inOrder

/-- The names alone fix the order in which they are listed. -/
theorem map_fst_sortByName_eq_of_perm
    {left right : List (Name × Entry)}
    (sameNames : (left.map Prod.fst).Perm (right.map Prod.fst)) :
    (sortByName left).map Prod.fst = (sortByName right).map Prod.fst := by
  rw [eq_map_fst_sortByName_iff]
  refine ⟨((perm_sortByName left).map _).trans sameNames, ?_⟩
  exact List.pairwise_map.mpr (inOrder_sortByName left)

/-- Entries with different names have one order. -/
theorem sortByName_eq_of_perm
    {left right : List (Name × Entry)}
    (distinct : (left.map Prod.fst).Nodup)
    (permuted : left.Perm right) :
    sortByName left = sortByName right := by
  have sortedPerm : (sortByName left).Perm (sortByName right) :=
    ((perm_sortByName left).trans permuted).trans (perm_sortByName right).symm
  refine sortedPerm.eq_of_pairwise ?_ (inOrder_sortByName left)
    (inOrder_sortByName right)
  intro first second inLeft inRight ascending descending
  exact List.inj_on_of_nodup_map distinct (mem_sortByName.mp inLeft)
    (permuted.mem_iff.mpr (mem_sortByName.mp inRight))
    (le_antisymm ascending descending)

/-! ## Which entry has a name -/

/-- The entries that come first have smaller names. -/
theorem lookup_insertByName
    (entry : Name × Entry)
    (entries : List (Name × Entry))
    (name : Name) :
    (insertByName entry entries).lookup name = (entry :: entries).lookup name := by
  induction entries with
  | nil => rfl
  | cons first entries inductionHypothesis =>
      unfold insertByName
      split
      · rename_i smaller
        rw [List.lookup_cons, inductionHypothesis, List.lookup_cons,
          List.lookup_cons, List.lookup_cons]
        by_cases isFirst : name = first.1
        · have other : name ≠ entry.1 := isFirst ▸ smaller.ne
          rw [beq_iff_eq.mpr isFirst, beq_eq_false_iff_ne.mpr other]
        · rw [beq_eq_false_iff_ne.mpr isFirst]
      · rfl

/-- Sorting does not change which entry has a name. -/
theorem lookup_sortByName
    (entries : List (Name × Entry))
    (name : Name) :
    (sortByName entries).lookup name = entries.lookup name := by
  induction entries with
  | nil => rfl
  | cons entry entries inductionHypothesis =>
      rw [sortByName, lookup_insertByName, List.lookup_cons, List.lookup_cons,
        inductionHypothesis]

/-! ## Changed entries -/

section Changed

variable (change : Entry → Entry)

theorem insertByName_map
    (entry : Name × Entry)
    (entries : List (Name × Entry)) :
    insertByName (entry.map id change) (entries.map (Prod.map id change)) =
      (insertByName entry entries).map (Prod.map id change) := by
  induction entries with
  | nil => rfl
  | cons first entries inductionHypothesis =>
      by_cases smaller : first.1 < entry.1
      · simp [insertByName, smaller, inductionHypothesis]
      · simp [insertByName, smaller]

/-- Entries are put in order before or after they are changed. -/
theorem sortByName_map (entries : List (Name × Entry)) :
    sortByName (entries.map (Prod.map id change)) =
      (sortByName entries).map (Prod.map id change) := by
  induction entries with
  | nil => rfl
  | cons entry entries inductionHypothesis =>
      rw [List.map_cons, sortByName, inductionHypothesis, insertByName_map,
        sortByName]

/-- The entry with a name is changed like all others. -/
theorem lookup_map
    (entries : List (Name × Entry))
    (name : Name) :
    (entries.map (Prod.map id change)).lookup name =
      (entries.lookup name).map change := by
  induction entries with
  | nil => rfl
  | cons entry entries inductionHypothesis =>
      rw [List.map_cons, List.lookup_cons, List.lookup_cons, inductionHypothesis]
      simp only [Prod.map_fst, id_eq, Prod.map_snd]
      split <;> rfl

end Changed

end Entry
end EnvTags
