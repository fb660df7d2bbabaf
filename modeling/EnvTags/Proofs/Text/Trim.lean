import EnvTags.Text.Blank
import Mathlib.Data.List.TakeWhile

/-!
# Trimmed texts

A trimmed text is what is left between the blanks at the two ends of a text. It is
the only part of the text that has nothing but blanks around it and no blank at
either end.
-/

namespace EnvTags
namespace Text

/-! ## Blanks at the start -/

theorem trimStart_append
    (left right : List Char) :
    trimStart (left ++ right) =
      if trimStart left = [] then trimStart right else trimStart left ++ right := by
  rw [trimStart, List.dropWhile_append, ← trimStart, ← trimStart]
  cases trimStart left <;> rfl

theorem trimStart_of_blank
    {gap : List Char}
    (areBlank : ∀ c ∈ gap, isBlank c = true)
    (text : List Char) :
    trimStart (gap ++ text) = trimStart text := by
  rw [trimStart, List.dropWhile_append_of_pos areBlank]
  rfl

theorem trimStart_of_notBlank
    {text : List Char}
    (starts : ∀ c ∈ text.head?, isBlank c = false) :
    trimStart text = text := by
  cases text with
  | nil => rfl
  | cons c text => simp [trimStart, starts c rfl]

/-- What is taken from the start of a text is blank. -/
theorem exists_gap_trimStart (text : List Char) :
    ∃ gap, (∀ c ∈ gap, isBlank c = true) ∧ text = gap ++ trimStart text :=
  ⟨text.takeWhile isBlank, List.all_eq_true.mp List.all_takeWhile,
    List.takeWhile_append_dropWhile.symm⟩

theorem notBlank_head_trimStart
    {text : List Char}
    {c : Char}
    (first : c ∈ (trimStart text).head?) :
    isBlank c = false := by
  have notBlank := List.head?_dropWhile_not isBlank text
  rw [← trimStart, Option.mem_def.mp first] at notBlank
  simpa using notBlank

/-! ## Blanks at both ends -/

/-- A part of a text is what is left of it without the blanks at the two ends. -/
structure TrimsTo (text core : List Char) : Prop where
  /-- Around the part are blanks only. -/
  blanksAround : ∃ before after, text = before ++ core ++ after ∧
    (∀ c ∈ before, isBlank c = true) ∧ ∀ c ∈ after, isBlank c = true
  /-- The part does not start with a blank. -/
  starts : ∀ c ∈ core.head?, isBlank c = false
  /-- The part does not end with a blank. -/
  ends : ∀ c ∈ core.getLast?, isBlank c = false

theorem trimEnd_of_blank
    (text : List Char)
    {gap : List Char}
    (areBlank : ∀ c ∈ gap, isBlank c = true) :
    trimEnd (text ++ gap) = trimEnd text := by
  have reversedBlank : ∀ c ∈ gap.reverse, isBlank c = true := by simpa using areBlank
  rw [trimEnd, List.reverse_append, ← trimStart, trimStart_of_blank reversedBlank]
  rfl

theorem trimEnd_of_notBlank
    {text : List Char}
    (ends : ∀ c ∈ text.getLast?, isBlank c = false) :
    trimEnd text = text := by
  rw [trimEnd, ← trimStart, trimStart_of_notBlank (by simpa using ends),
    List.reverse_reverse]

theorem trimsTo_trim (text : List Char) : TrimsTo text (trim text) := by
  obtain ⟨before, beforeBlank, isText⟩ := exists_gap_trimStart text
  obtain ⟨after, afterBlank, isBody⟩ :=
    exists_gap_trimStart (trimStart text).reverse
  have body : trimStart text = trim text ++ after.reverse := by
    rw [trim, trimEnd, ← trimStart, ← List.reverse_append, ← isBody,
      List.reverse_reverse]
  refine ⟨⟨before, after.reverse, ?_, beforeBlank, by simpa using afterBlank⟩, ?_, ?_⟩
  · rw [List.append_assoc, ← body, ← isText]
  · intro c first
    have atStart : c ∈ (trimStart text).head? := by
      rw [body, List.head?_append, Option.mem_def.mp first]
      rfl
    exact notBlank_head_trimStart atStart
  · intro c last
    rw [trim, trimEnd, ← trimStart, List.getLast?_reverse] at last
    exact notBlank_head_trimStart last

/-- Trimming leaves exactly the part between the blanks at the two ends. -/
theorem trim_eq_iff_trimsTo {text core : List Char} :
    trim text = core ↔ TrimsTo text core := by
  constructor
  · rintro rfl
    exact trimsTo_trim text
  · rintro ⟨⟨before, after, rfl, beforeBlank, afterBlank⟩, starts, ends⟩
    have noAfter : trimStart after = [] :=
      List.dropWhile_eq_nil_iff.mpr afterBlank
    rw [trim, List.append_assoc, trimStart_of_blank beforeBlank, trimStart_append,
      trimStart_of_notBlank starts]
    split
    · rename_i isEmpty
      rw [noAfter, isEmpty]
      rfl
    · rw [trimEnd_of_blank core afterBlank, trimEnd_of_notBlank ends]

end Text
end EnvTags
