import Mathlib.Data.List.Forall2
import EnvTags.Manifest

/-!
# Lines of a manifest

A line ends at a line feed, with or without a carriage return before it, and is cut
at its first comment mark.
-/

namespace EnvTags
namespace Manifest

/-- A line is what stands before the first comment mark, or all if there is
none. -/
def IsUncommented (whole line : List Char) : Prop :=
  (¬['/', '/'] <:+: whole ∧ line = whole) ∨
    ∃ comment, ¬['/', '/'] <:+: line ++ ['/'] ∧ whole = line ++ '/' :: '/' :: comment

/-- What a line end leaves is cut at its first comment mark. The line end can
have a carriage return. -/
def IsLineOf (raw line : List Char) : Prop :=
  ∃ whole, (raw = whole ++ ['\r'] ∨ raw = whole ∧ raw.getLast? ≠ some '\r') ∧
    IsUncommented whole line

theorem infix_cons_cons_iff
    {c d : Char}
    {rest : List Char} :
    ['/', '/'] <:+: c :: d :: rest ↔ (c = '/' ∧ d = '/') ∨ ['/', '/'] <:+: d :: rest := by
  rw [List.infix_cons_iff, List.cons_prefix_cons, List.cons_prefix_cons,
    eq_comm (a := c), eq_comm (a := d)]
  simp only [List.nil_prefix, and_true]

theorem not_infix_singleton (c : Char) : ¬['/', '/'] <:+: [c] := by
  intro isInfix
  simpa using isInfix.length_le

/-- Nothing stands before a mark at the start. -/
theorem isUncommented_slashes_iff
    {rest line : List Char} :
    IsUncommented ('/' :: '/' :: rest) line ↔ line = [] := by
  constructor
  · rintro (⟨free, -⟩ | ⟨comment, free, same⟩)
    · exact absurd (infix_cons_cons_iff.mpr (.inl ⟨rfl, rfl⟩)) free
    · match line with
      | [] => rfl
      | [c] =>
          obtain rfl : '/' = c := (List.cons.inj same).1
          exact absurd (List.infix_refl _) free
      | c :: d :: line =>
          simp only [List.cons_append, List.cons.injEq] at same free
          exact absurd (infix_cons_cons_iff.mpr (.inl ⟨same.1.symm, same.2.1.symm⟩)) free
  · rintro rfl
    exact .inr ⟨rest, not_infix_singleton '/', rfl⟩

/-- Where no mark starts, the first character stays. -/
theorem isUncommented_cons_cons_iff
    {c d : Char}
    {rest line : List Char}
    (noMark : ¬(c = '/' ∧ d = '/')) :
    IsUncommented (c :: d :: rest) line ↔
      ∃ cut, IsUncommented (d :: rest) cut ∧ line = c :: cut := by
  constructor
  · rintro (⟨free, rfl⟩ | ⟨comment, free, same⟩)
    · rw [infix_cons_cons_iff, not_or] at free
      exact ⟨d :: rest, .inl ⟨free.2, rfl⟩, rfl⟩
    · cases line with
      | nil =>
          simp only [List.nil_append, List.cons.injEq] at same
          exact absurd ⟨same.1, same.2.1⟩ noMark
      | cons e line =>
          obtain ⟨rfl, sameRest⟩ := List.cons.inj same
          have stillFree : ¬['/', '/'] <:+: line ++ ['/'] := fun isInfix =>
            free (isInfix.trans (List.suffix_cons _ _).isInfix)
          exact ⟨line, .inr ⟨comment, stillFree, sameRest⟩, rfl⟩
  · rintro ⟨cut, ⟨free, rfl⟩ | ⟨comment, free, same⟩, rfl⟩
    · exact .inl ⟨by rw [infix_cons_cons_iff, not_or]; exact ⟨noMark, free⟩, rfl⟩
    · refine .inr ⟨comment, ?_, by rw [List.cons_append, same]⟩
      cases cut with
      | nil =>
          obtain ⟨rfl, -⟩ := List.cons.inj same
          rw [List.cons_append, List.nil_append, infix_cons_cons_iff, not_or]
          exact ⟨noMark, free⟩
      | cons e cut =>
          obtain ⟨rfl, -⟩ := List.cons.inj same
          rw [List.cons_append, List.cons_append, infix_cons_cons_iff, not_or]
          exact ⟨noMark, free⟩

theorem withoutComment_eq_iff
    {whole line : List Char} :
    withoutComment whole = line ↔ IsUncommented whole line := by
  fun_induction withoutComment whole generalizing line with
  | case1 =>
      constructor
      · rintro rfl
        exact .inl ⟨by simp, rfl⟩
      · rintro (⟨-, rfl⟩ | ⟨comment, -, same⟩)
        · rfl
        · simp at same
  | case2 c =>
      constructor
      · rintro rfl
        exact .inl ⟨not_infix_singleton c, rfl⟩
      · rintro (⟨-, rfl⟩ | ⟨comment, -, same⟩)
        · rfl
        · have sameLength := congrArg List.length same
          simp only [List.length_cons, List.length_nil, List.length_append] at sameLength
          omega
  | case3 c d rest starts =>
      obtain ⟨rfl, rfl⟩ := starts
      rw [isUncommented_slashes_iff, eq_comm]
  | case4 c d rest noMark inductionHypothesis =>
      rw [isUncommented_cons_cons_iff noMark]
      simp only [← inductionHypothesis, exists_eq_left']
      exact eq_comm

theorem isLineOf_iff
    {raw line : List Char} :
    withoutComment (withoutReturn raw) = line ↔ IsLineOf raw line := by
  rw [withoutReturn]
  split
  · rename_i returns
    have whole : raw.dropLast ++ ['\r'] = raw := by
      rw [List.dropLast_append_getLast?]
      exact Option.mem_def.mpr returns
    rw [withoutComment_eq_iff]
    constructor
    · intro uncommented
      exact ⟨raw.dropLast, .inl whole.symm, uncommented⟩
    · rintro ⟨other, rfl | ⟨rfl, notReturn⟩, uncommented⟩
      · rwa [List.dropLast_concat]
      · exact absurd returns notReturn
  · rename_i notReturn
    rw [withoutComment_eq_iff]
    constructor
    · intro uncommented
      exact ⟨raw, .inr ⟨rfl, notReturn⟩, uncommented⟩
    · rintro ⟨other, rfl | ⟨rfl, -⟩, uncommented⟩
      · simp at notReturn
      · exact uncommented

/-- The lines of a manifest are the ones that its line ends leave, each cut at its
first comment mark. -/
theorem lines_eq_iff
    {content : String}
    {rows : List (List Char)} :
    lines content = rows ↔ List.Forall₂ IsLineOf (content.toList.splitOn '\n') rows := by
  rw [lines, ← List.forall₂_eq_eq_eq, List.forall₂_map_left_iff]
  simp only [isLineOf_iff]

end Manifest
end EnvTags
