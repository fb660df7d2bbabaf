import EnvTags.Record
import Mathlib.Data.List.Induction

/-!
# The first records with their marks

Among records that come one after the other, only the first one with each mark is
kept. These are the records whose mark occurs nowhere before them. A record that
comes last is added exactly if no record before it has its mark, and a search for
a mark gives the same record before and after the others are dropped.
-/

namespace EnvTags
namespace Record

/-- The first records with their marks are among the records. -/
theorem mem_of_mem_firstBy
    [DecidableEq κ]
    {mark : Record → κ}
    {records : List Record}
    {record : Record}
    (first : record ∈ firstBy mark records) :
    record ∈ records := by
  induction records with
  | nil => exact first
  | cons other others inductionHypothesis =>
      simp only [firstBy, List.mem_cons, List.mem_filter] at first
      rcases first with rfl | ⟨later, -⟩
      · exact List.mem_cons_self
      · exact List.mem_cons_of_mem _ (inductionHypothesis later)

/-- Every mark of a record is the mark of a first record. -/
theorem exists_mem_firstBy
    [DecidableEq κ]
    (mark : Record → κ)
    {records : List Record}
    {record : Record}
    (present : record ∈ records) :
    ∃ first ∈ firstBy mark records, mark first = mark record := by
  induction records with
  | nil => cases present
  | cons other others inductionHypothesis =>
      by_cases same : mark other = mark record
      · exact ⟨other, by simp [firstBy], same⟩
      · rcases List.mem_cons.mp present with rfl | later
        · exact absurd rfl same
        · obtain ⟨first, isFirst, equal⟩ := inductionHypothesis later
          refine ⟨first, ?_, equal⟩
          rw [← equal] at same
          simp [firstBy, isFirst, Ne.symm same]

/-- No two of the first records have one mark. -/
theorem pairwise_firstBy
    [DecidableEq κ]
    (mark : Record → κ)
    (records : List Record) :
    (firstBy mark records).Pairwise fun left right => mark left ≠ mark right := by
  induction records with
  | nil => exact .nil
  | cons record records inductionHypothesis =>
      refine .cons ?_ (inductionHypothesis.filter _)
      intro other later
      simp only [List.mem_filter, ne_eq, decide_not, Bool.not_eq_true',
        decide_eq_false_iff_not] at later
      exact Ne.symm later.2

theorem nodup_map_firstBy
    {κ : Type}
    [DecidableEq κ]
    (mark : Record → κ)
    (records : List Record) :
    ((firstBy mark records).map mark).Nodup :=
  List.pairwise_map.mpr (pairwise_firstBy mark records)

section Occurrences

variable {κ : Type} [DecidableEq κ] (mark : Record → κ)

/-- Of records that come later, those are kept whose mark no earlier one has. -/
theorem firstBy_append (records others : List Record) :
    firstBy mark (records ++ others) =
      firstBy mark records ++ (firstBy mark others).filter fun other =>
        ∀ earlier ∈ records, mark earlier ≠ mark other := by
  induction records with
  | nil => simp [firstBy, List.filter_eq_self.mpr]
  | cons record records inductionHypothesis =>
      rw [List.cons_append, firstBy, inductionHypothesis, firstBy,
        List.filter_append, List.filter_filter, List.cons_append]
      congr 3
      funext other
      rw [← Bool.decide_and]
      simp only [ne_comm, List.forall_mem_cons]

/-- The first record with a mark is found among the first records too. -/
theorem find?_firstBy (records : List Record) (sought : κ) :
    ((firstBy mark records).find? fun record => mark record = sought) =
      records.find? fun record => mark record = sought := by
  induction records with
  | nil => rfl
  | cons record records inductionHypothesis =>
      rw [firstBy, List.find?_cons, List.find?_cons]
      by_cases same : mark record = sought
      · simp [same]
      · -- What is dropped after the record has its mark, which is not sought.
        have apart : ∀ other : Record,
            (mark other ≠ mark record ∧ mark other = sought) ↔
              mark other = sought := by
          intro other
          constructor
          · exact And.right
          · rintro rfl
            exact ⟨Ne.symm same, rfl⟩
        simp only [same, decide_false, List.find?_filter, decide_eq_true_eq,
          apart, inductionHypothesis]

/-- The records at the places before which their mark does not occur. -/
def firstOccurrences (records : List Record) : List Record :=
  (records.zipIdx.filter fun placed : Record × Nat =>
    ∀ earlier ∈ records.take placed.2, mark earlier ≠ mark placed.1).map
      Prod.fst

theorem firstOccurrences_concat (records : List Record) (record : Record) :
    firstOccurrences mark (records ++ [record]) =
      firstOccurrences mark records ++
        if ∀ earlier ∈ records, mark earlier ≠ mark record then [record]
        else [] := by
  have before : ∀ placed ∈ records.zipIdx,
      (records ++ [record]).take placed.2 = records.take placed.2 := by
    intro placed inside
    have inRange := List.snd_lt_of_mem_zipIdx inside
    exact List.take_append_of_le_length (by omega)
  rw [firstOccurrences, List.zipIdx_append, List.filter_append, List.map_append]
  congr 1
  · rw [firstOccurrences]
    congr 1
    apply List.filter_congr
    intro placed inside
    rw [before placed inside]
  · rw [List.zipIdx_singleton, List.filter_cons]
    simp only [Nat.zero_add, List.take_left, decide_eq_true_eq, List.filter_nil]
    split <;> rfl

/-- The first records with their marks are the first occurrences of the marks,
in their order. -/
theorem firstBy_eq_firstOccurrences (records : List Record) :
    firstBy mark records = firstOccurrences mark records := by
  -- Records are added at the end, since places are counted from the start.
  induction records using List.reverseRecOn with
  | nil => rfl
  | append_singleton records record inductionHypothesis =>
      rw [firstBy_append, firstOccurrences_concat, inductionHypothesis]
      simp [firstBy, List.filter_cons]

end Occurrences

end Record
end EnvTags
