import Mathlib.Data.List.TakeWhile
import EnvTags.Manifest

/-!
# The path of a directive

A path is written between two equal marks, or bare up to the next blank. A path
between marks is read where one stands, and a bare one elsewhere. What stands on
the lines below is read only for a mark that is not closed on its own line.
-/

namespace EnvTags
namespace Manifest

/-- The marks that a path can stand between. -/
def IsMark (c : Char) : Prop :=
  c = '"' ∨ c = '\x60'

/-- A text starts with a path between two marks. -/
def Encloses (path text : List Char) : Prop :=
  ∃ mark rest, IsMark mark ∧ path ≠ [] ∧ mark ∉ path ∧
    text = mark :: (path ++ mark :: rest)

/-- A text starts with a bare path, which ends at a blank or with the text. -/
def StartsBare (path text : List Char) : Prop :=
  ∃ rest, path ≠ [] ∧ path.head? ≠ some '/' ∧
    (∀ c ∈ path, Text.isBlank c = false) ∧
    (∀ c ∈ rest.head?, Text.isBlank c = true) ∧
    text = path ++ rest

/-- A text starts with a path, which is bare only where none stands between
marks. -/
def StartsWithPath (path text : List Char) : Prop :=
  Encloses path text ∨ ((∀ other, ¬Encloses other text) ∧ StartsBare path text)

/-- The text of lines that stand below another line. -/
def below (lines : List (List Char)) : List Char :=
  lines.flatMap fun line => '\n' :: line

theorem intercalate_eq_append_below
    (line : List Char)
    (after : List (List Char)) :
    ['\n'].intercalate (line :: after) = line ++ below after := by
  induction after generalizing line with
  | nil => simp [below, List.intercalate]
  | cons next after inductionHypothesis =>
      rw [List.intercalate_cons_cons, inductionHypothesis]
      simp [below]

theorem isBlank_head_below
    {after : List (List Char)}
    {c : Char}
    (first : c ∈ (below after).head?) :
    Text.isBlank c = true := by
  cases after with
  | nil => cases first
  | cons line after =>
      obtain rfl : '\n' = c := by simpa [below] using first
      decide

theorem mem_below_of_ne
    {after : List (List Char)}
    {c : Char}
    (notLineFeed : c ≠ '\n') :
    c ∈ below after ↔ ∃ line ∈ after, c ∈ line := by
  simp [below, notLineFeed]

/-! ## Reading a path -/

/-- Up to a blank, or up to the end, a text without blanks is taken whole. -/
theorem takeWhile_notBlank
    {text rest : List Char}
    (plain : ∀ c ∈ text, Text.isBlank c = false)
    (ends : ∀ c ∈ rest.head?, Text.isBlank c = true) :
    (text ++ rest).takeWhile (fun c => !Text.isBlank c) = text := by
  rw [List.takeWhile_append_of_pos fun c inside => by simp [plain c inside]]
  cases rest with
  | nil => simp
  | cons c rest => simp [ends c rfl]

/-- What stands behind a text without blanks that ends at a blank. -/
theorem dropWhile_notBlank
    {text rest : List Char}
    (plain : ∀ c ∈ text, Text.isBlank c = false)
    (ends : ∀ c ∈ rest.head?, Text.isBlank c = true) :
    (text ++ rest).dropWhile (fun c => !Text.isBlank c) = rest := by
  rw [List.dropWhile_append_of_pos fun c inside => by simp [plain c inside]]
  cases rest with
  | nil => rfl
  | cons c rest => simp [ends c rfl]

theorem enclosed?_eq_some_iff
    {mark : Char}
    {text path : List Char} :
    enclosed? mark text = some path ↔
      path ≠ [] ∧ mark ∉ path ∧ ∃ rest, text = mark :: (path ++ mark :: rest) := by
  cases text with
  | nil => simp [enclosed?]
  | cons c text =>
      by_cases isMark : c = mark
      · subst isMark
        rw [enclosed?, if_pos rfl]
        constructor
        · intro read
          split at read
          · cases read
          · cases read
          · rename_i before rest nonempty cut
            obtain rfl := Option.some.inj read
            obtain ⟨rfl, free⟩ := Text.cut_eq_some_iff.mp cut
            exact ⟨nonempty, free, rest, rfl⟩
        · rintro ⟨nonempty, free, rest, same⟩
          rw [(List.cons.inj same).2, Text.cut_eq_some_iff.mpr ⟨rfl, free⟩]
          cases path with
          | nil => exact absurd rfl nonempty
          | cons => rfl
      · simp [enclosed?, isMark]

theorem bare?_eq_some_iff
    {text path : List Char} :
    bare? text = some path ↔ StartsBare path text := by
  constructor
  · intro read
    cases text with
    | nil => cases read
    | cons c text =>
        rw [bare?] at read
        split at read
        · cases read
        · rename_i starts
          rw [not_or, Bool.not_eq_true] at starts
          obtain rfl := Option.some.inj read
          refine ⟨text.dropWhile fun d => !Text.isBlank d, by simp, ?_, ?_, ?_, ?_⟩
          · simpa using starts.2
          · intro d inside
            rcases List.mem_cons.mp inside with rfl | later
            · exact starts.1
            · simpa using List.mem_takeWhile_imp later
          · intro d first
            have := List.head?_dropWhile_not (fun d => !Text.isBlank d) text
            rw [Option.mem_def.mp first] at this
            simpa using this
          · rw [List.cons_append, List.takeWhile_append_dropWhile]
  · rintro ⟨rest, nonempty, notSlash, plain, ends, rfl⟩
    cases path with
    | nil => exact absurd rfl nonempty
    | cons c path =>
        have notBlank := plain c List.mem_cons_self
        have isPath : (path ++ rest).takeWhile (fun d => !Text.isBlank d) = path :=
          takeWhile_notBlank (fun d inside => plain d (List.mem_cons_of_mem _ inside))
            ends
        have starts : ¬(Text.isBlank c = true ∨ c = '/') := by
          simpa [notBlank] using notSlash
        rw [List.cons_append, bare?, if_neg starts, isPath]

/-- A path between marks is read if there is one, else a bare path. -/
theorem path?_eq_some_iff
    {text path : List Char} :
    path? text = some path ↔ StartsWithPath path text := by
  have encloses_iff : ∀ other, Encloses other text ↔
      (enclosed? '"' text).or (enclosed? '\x60' text) = some other := by
    intro other
    rw [Option.or_eq_some_iff, enclosed?_eq_some_iff, enclosed?_eq_some_iff]
    constructor
    · rintro ⟨mark, rest, rfl | rfl, nonempty, free, rfl⟩
      · exact .inl ⟨nonempty, free, rest, rfl⟩
      · exact .inr ⟨by simp [enclosed?], nonempty, free, rest, rfl⟩
    · rintro (⟨nonempty, free, rest, rfl⟩ | ⟨-, nonempty, free, rest, rfl⟩)
      · exact ⟨'"', rest, .inl rfl, nonempty, free, rfl⟩
      · exact ⟨'\x60', rest, .inr rfl, nonempty, free, rfl⟩
  rw [path?, Option.or_eq_some_iff, ← encloses_iff, bare?_eq_some_iff,
    Option.eq_none_iff_forall_ne_some, StartsWithPath]
  simp only [encloses_iff, ne_eq]

/-! ## The lines below -/

/-- A mark at the start of a text is not closed in the text, but on a line
below. -/
def LeavesOpen (text : List Char) (after : List (List Char)) : Prop :=
  ∃ mark body, IsMark mark ∧ text = mark :: body ∧ mark ∉ body ∧
    ∃ line ∈ after, mark ∈ line

theorem IsMark.ne_lineFeed
    {mark : Char}
    (isMark : IsMark mark) :
    mark ≠ '\n' := by
  rcases isMark with rfl | rfl <;> decide

theorem encloses_append_below_iff
    {text path : List Char}
    {after : List (List Char)}
    (nonempty : text ≠ [])
    (closed : ¬LeavesOpen text after) :
    Encloses path (text ++ below after) ↔ Encloses path text := by
  constructor
  · rintro ⟨mark, rest, isMark, notEmpty, free, same⟩
    cases text with
    | nil => exact absurd rfl nonempty
    | cons c body =>
        rw [List.cons_append, List.cons.injEq] at same
        obtain ⟨rfl, sameBody⟩ := same
        by_cases inside : c ∈ body
        · obtain ⟨before, later, rfl, beforeFree⟩ := List.eq_append_cons_of_mem inside
          have first : Text.cut c (before ++ c :: later ++ below after) =
              some (before, later ++ below after) :=
            Text.cut_eq_some_iff.mpr ⟨by simp, beforeFree⟩
          have second := Text.cut_eq_some_iff.mpr ⟨sameBody, free⟩
          obtain ⟨rfl, -⟩ := Prod.mk.inj (Option.some.inj (first.symm.trans second))
          exact ⟨c, later, isMark, notEmpty, free, rfl⟩
        · have marked : c ∈ body ++ below after := by rw [sameBody]; simp
          have inBelow := (List.mem_append.mp marked).resolve_left inside
          exact absurd ⟨c, body, isMark, rfl, inside,
            (mem_below_of_ne isMark.ne_lineFeed).mp inBelow⟩ closed
  · rintro ⟨mark, rest, isMark, notEmpty, free, rfl⟩
    exact ⟨mark, rest ++ below after, isMark, notEmpty, free, by simp⟩

/-- A bare path does not go on below. -/
theorem bare?_append_below
    {text : List Char}
    (nonempty : text ≠ [])
    (after : List (List Char)) :
    bare? (text ++ below after) = bare? text := by
  cases text with
  | nil => exact absurd rfl nonempty
  | cons c rest =>
      have stops : (below after).takeWhile (fun d => !Text.isBlank d) = [] := by
        cases starts : below after with
        | nil => rfl
        | cons d later =>
            have isFirst : d ∈ (below after).head? := by simp [starts]
            have isBlank := isBlank_head_below isFirst
            simp [isBlank]
      have same : (rest ++ below after).takeWhile (fun d => !Text.isBlank d) =
          rest.takeWhile fun d => !Text.isBlank d := by
        rw [List.takeWhile_append]
        split
        · rename_i whole
          rw [stops, List.append_nil,
            (List.takeWhile_prefix _).eq_of_length whole]
        · rfl
      rw [List.cons_append, bare?, bare?, same]

/-- The lines below do not count if no mark is left open. -/
theorem path?_append_below
    {text : List Char}
    {after : List (List Char)}
    (nonempty : text ≠ [])
    (closed : ¬LeavesOpen text after) :
    path? (text ++ below after) = path? text := by
  apply Option.ext
  intro path
  rw [path?_eq_some_iff, path?_eq_some_iff, StartsWithPath, StartsWithPath,
    ← bare?_eq_some_iff, ← bare?_eq_some_iff, bare?_append_below nonempty]
  simp only [encloses_append_below_iff nonempty closed]

/-- A mark that is left open is closed by the first one below. -/
theorem path?_of_leavesOpen
    {mark : Char}
    {body more rest : List Char}
    {after : List (List Char)}
    (isMark : IsMark mark)
    (notClosed : mark ∉ body)
    (first : mark ∉ more)
    (closed : below after = more ++ mark :: rest) :
    path? (mark :: body ++ below after) = some (body ++ more) := by
  -- The text below starts with a line feed, so that what stands between the marks
  -- is not empty even if nothing follows the first mark.
  have nonempty : more ≠ [] := by
    rintro rfl
    have isFirst : mark ∈ (below after).head? := by simp [closed]
    have isBlank := isBlank_head_below isFirst
    rcases isMark with rfl | rfl <;> exact absurd isBlank (by decide)
  rw [path?_eq_some_iff]
  exact .inl ⟨mark, rest, isMark, by simp [nonempty], by simp [notClosed, first],
    by simp [closed]⟩

end Manifest
end EnvTags
