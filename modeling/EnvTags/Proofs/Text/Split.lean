import EnvTags.Text.Split

/-!
# The parts of a text

A mark cuts a text into parts that are free of it, and the parts of joined
strings are the strings.
-/

namespace EnvTags
namespace Text

/-- What is in a part of a text between marks is in the text and not the mark. -/
theorem mem_of_mem_splitOn
    {mark c : Char}
    {text part : List Char}
    (isPart : part ∈ text.splitOn mark)
    (inside : c ∈ part) :
    c ∈ text ∧ c ≠ mark := by
  induction text generalizing part with
  | nil =>
      obtain rfl : part = [] := by simpa using isPart
      cases inside
  | cons first rest inductionHypothesis =>
      rw [List.splitOn_cons_eq_if_modifyHead] at isPart
      split at isPart
      · rcases List.mem_cons.mp isPart with rfl | later
        · cases inside
        · obtain ⟨inRest, unmarked⟩ := inductionHypothesis later inside
          exact ⟨List.mem_cons_of_mem _ inRest, unmarked⟩
      · rename_i notMark
        obtain ⟨head, others, split⟩ :=
          List.exists_cons_of_ne_nil (List.splitOn_ne_nil mark rest)
        rw [split, List.modifyHead_cons, List.mem_cons] at isPart
        rw [split] at inductionHypothesis
        rcases isPart with rfl | later
        · rcases List.mem_cons.mp inside with rfl | deeper
          · exact ⟨List.mem_cons_self, by simpa using notMark⟩
          · obtain ⟨inRest, unmarked⟩ :=
              inductionHypothesis List.mem_cons_self deeper
            exact ⟨List.mem_cons_of_mem _ inRest, unmarked⟩
        · obtain ⟨inRest, unmarked⟩ :=
            inductionHypothesis (List.mem_cons_of_mem _ later) inside
          exact ⟨List.mem_cons_of_mem _ inRest, unmarked⟩

/-- The parts before a mark and those after it are the parts of the text. -/
theorem parts_eq_append
    {mark : Char}
    {text left right : String}
    (split : text.toList = left.toList ++ mark :: right.toList) :
    parts mark text = parts mark left ++ parts mark right := by
  rw [parts, split, List.splitOn_append_cons_self, List.map_append]
  rfl

/-- No part of a text has the mark. -/
theorem notMem_of_mem_parts
    {mark : Char}
    {text part : String}
    (isPart : part ∈ parts mark text) :
    mark ∉ part.toList := by
  obtain ⟨characters, inSplit, rfl⟩ := List.mem_map.mp isPart
  rw [String.toList_ofList]
  intro inside
  exact (mem_of_mem_splitOn inSplit inside).2 rfl

/-- A text is its only part exactly if it does not have the mark. -/
theorem parts_eq_singleton_iff
    {mark : Char}
    {text : String} :
    parts mark text = [text] ↔ mark ∉ text.toList := by
  constructor
  · intro single
    exact notMem_of_mem_parts (by rw [single]; exact List.mem_singleton_self text)
  · intro unmarked
    rw [parts, List.splitOn_eq_singleton unmarked, List.map_singleton,
      String.ofList_toList]

theorem parts_ne_nil (mark : Char) (text : String) : parts mark text ≠ [] := by
  simp [parts, List.splitOn_ne_nil]

/-- The parts of joined strings are the strings. -/
theorem parts_joined
    {mark : Char}
    {strings : List String}
    (nonempty : strings ≠ [])
    (unmarked : ∀ string ∈ strings, mark ∉ string.toList) :
    parts mark (joined mark strings) = strings := by
  rw [parts, joined, String.toList_ofList,
    List.splitOn_intercalate mark (by simpa using unmarked)
      (by simpa using nonempty), List.map_map]
  simp [Function.comp_def]

/-- The parts of a text, joined again, are the text. -/
theorem joined_parts (mark : Char) (text : String) :
    joined mark (parts mark text) = text := by
  rw [joined, parts, List.map_map]
  simp [Function.comp_def, List.intercalate_splitOn]

/-- Joined strings with the mark in front have a mark before each of them. -/
theorem cons_toList_joined
    (mark : Char)
    {strings : List String}
    (nonempty : strings ≠ []) :
    mark :: (joined mark strings).toList =
      strings.flatMap fun string => mark :: string.toList := by
  induction strings with
  | nil => exact absurd rfl nonempty
  | cons string strings inductionHypothesis =>
      cases strings with
      | nil => simp [joined, List.intercalate]
      | cons next others =>
          have rest := inductionHypothesis (by simp)
          simp only [joined, List.map_cons, String.toList_ofList,
            List.flatMap_cons] at rest ⊢
          rw [List.intercalate_cons_cons, ← rest]
          simp

/-- The text of joined strings starts with the one of the first of them. -/
theorem joined_prefix
    (mark : Char)
    {strings others : List String}
    (starts : strings <+: others) :
    (joined mark strings).toList <+: (joined mark others).toList := by
  obtain ⟨rest, rfl⟩ := starts
  by_cases isEmpty : strings = []
  · subst isEmpty
    exact List.nil_prefix
  · have nonempty : strings ++ rest ≠ [] := by simp [isEmpty]
    apply (List.prefix_cons_inj mark).mp
    rw [cons_toList_joined mark isEmpty, cons_toList_joined mark nonempty,
      List.flatMap_append]
    exact List.prefix_append _ _

end Text
end EnvTags
