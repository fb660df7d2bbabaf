import EnvTags.Proofs.Manifest.Lines
import EnvTags.Proofs.Manifest.WrittenPath
import EnvTags.Proofs.Text.Trim

/-!
# The directive of a manifest

A directive is looked for line by line. A line whose first word is `module` gives
the path behind the word, and any other line is passed over. A directive that is
complete on its line is read from that line only. Another one runs on: its path is
read from the lines below.
-/

namespace EnvTags
namespace Manifest

/-! ## Words -/

/-- The word that starts a directive. -/
def keyword : List Char := "module".toList

/-- The first word of a line. Blanks stand between words. -/
def firstWord (line : List Char) : List Char :=
  (Text.trimStart line).takeWhile fun c => !Text.isBlank c

/-- What stands behind the first word of a line, from the blanks on. -/
def afterWord (line : List Char) : List Char :=
  (Text.trimStart line).dropWhile fun c => !Text.isBlank c

/-- A line consists of blanks, the word of a directive, blanks, and a text of some
form. -/
def IsDirective (form : List Char → Prop) (line : List Char) : Prop :=
  ∃ indent gap text, (∀ c ∈ indent, Text.isBlank c = true) ∧
    (∀ c ∈ gap, Text.isBlank c = true) ∧ gap ≠ [] ∧ form text ∧
    line = indent ++ keyword ++ gap ++ text

theorem firstWord_append_afterWord (line : List Char) :
    firstWord line ++ afterWord line = Text.trimStart line :=
  List.takeWhile_append_dropWhile

theorem firstWord_notBlank
    {line : List Char}
    {c : Char}
    (inside : c ∈ firstWord line) :
    Text.isBlank c = false := by
  simpa using List.mem_takeWhile_imp inside

theorem isBlank_head_afterWord
    {line : List Char}
    {c : Char}
    (first : c ∈ (afterWord line).head?) :
    Text.isBlank c = true := by
  have := List.head?_dropWhile_not (fun d => !Text.isBlank d) (Text.trimStart line)
  rw [← afterWord, Option.mem_def.mp first] at this
  simpa using this

theorem keyword_notBlank : ∀ c ∈ keyword, Text.isBlank c = false :=
  List.forall_iff_forall_mem.mp (by decide)

/-- In a directive the word is the first one, and the text stands behind it. -/
theorem isDirective_iff
    {form : List Char → Prop}
    (visible : ∀ text, form text → ∃ c ∈ text.head?, Text.isBlank c = false)
    {line : List Char} :
    IsDirective form line ↔
      firstWord line = keyword ∧ form (Text.trimStart (afterWord line)) := by
  constructor
  · rintro ⟨indent, gap, text, indentBlank, gapBlank, nonempty, isForm, rfl⟩
    obtain ⟨c, first, notBlank⟩ := visible text isForm
    have textStarts : ∀ d ∈ text.head?, Text.isBlank d = false := by
      intro d isFirst
      rwa [Option.mem_unique isFirst first]
    have gapStarts : ∀ d ∈ (gap ++ text).head?, Text.isBlank d = true := by
      cases gap with
      | nil => exact absurd rfl nonempty
      | cons e gap =>
          intro d isFirst
          obtain rfl : e = d := by simpa using isFirst
          exact gapBlank e List.mem_cons_self
    have trimmed : Text.trimStart (indent ++ keyword ++ gap ++ text) =
        keyword ++ (gap ++ text) := by
      rw [List.append_assoc, List.append_assoc, Text.trimStart_of_blank indentBlank]
      rfl
    refine ⟨?_, ?_⟩
    · rw [firstWord, trimmed, takeWhile_notBlank keyword_notBlank gapStarts]
    · rwa [afterWord, trimmed, dropWhile_notBlank keyword_notBlank gapStarts,
        Text.trimStart_of_blank gapBlank, Text.trimStart_of_notBlank textStarts]
  · rintro ⟨isKeyword, isForm⟩
    refine ⟨line.takeWhile Text.isBlank, (afterWord line).takeWhile Text.isBlank,
      Text.trimStart (afterWord line), fun c => List.mem_takeWhile_imp,
      fun c => List.mem_takeWhile_imp, ?_, isForm, ?_⟩
    · intro noGap
      obtain ⟨c, first, notBlank⟩ := visible _ isForm
      have stays : Text.trimStart (afterWord line) = afterWord line := by
        have whole : (afterWord line).takeWhile Text.isBlank ++
            Text.trimStart (afterWord line) = afterWord line :=
          List.takeWhile_append_dropWhile
        rwa [noGap, List.nil_append] at whole
      rw [stays] at first
      rw [isBlank_head_afterWord first] at notBlank
      cases notBlank
    · rw [← isKeyword, List.append_assoc, Text.trimStart, List.takeWhile_append_dropWhile,
        List.append_assoc, firstWord_append_afterWord, Text.trimStart,
        List.takeWhile_append_dropWhile]

/-! ## Reading from a line on -/

/-- The path that is read for a directive on a line, with the lines below. -/
def pathFrom? (line : List Char) (after : List (List Char)) : Option (List Char) :=
  if firstWord line = keyword then
    path? (Text.trimStart (afterWord line ++ below after))
  else none

theorem isBlank_head_afterWord_append_below
    {line : List Char}
    {after : List (List Char)}
    {c : Char}
    (first : c ∈ (afterWord line ++ below after).head?) :
    Text.isBlank c = true := by
  cases behind : afterWord line with
  | nil =>
      rw [behind, List.nil_append] at first
      exact isBlank_head_below first
  | cons d rest =>
      have isFirst : c ∈ (afterWord line).head? := by simpa [behind] using first
      exact isBlank_head_afterWord isFirst

/-- A directive needs a blank behind its word. -/
theorem pathAfterWord?_eq_path?
    {text : List Char}
    (starts : ∀ c ∈ text.head?, Text.isBlank c = true) :
    pathAfterWord? text = path? (Text.trimStart text) := by
  cases text with
  | nil => rfl
  | cons c rest =>
      have isBlank := starts c rfl
      rw [pathAfterWord?, if_pos isBlank, Text.trimStart, Text.trimStart,
        List.dropWhile_cons_of_pos isBlank]

theorem directive?_eq_bind (text : List Char) :
    directive? text = (Text.after? keyword (Text.trimStart text)).bind pathAfterWord? := by
  unfold directive? keyword
  cases Text.after? "module".toList (Text.trimStart text) <;> rfl

/-- At a line with a word a directive is read exactly if the word is the one of a
directive. -/
theorem directive?_eq_pathFrom?
    {line : List Char}
    (notBlank : Text.trimStart line ≠ [])
    (after : List (List Char)) :
    directive? (line ++ below after) = pathFrom? line after := by
  rw [directive?_eq_bind, Text.trimStart_append, if_neg notBlank,
    ← firstWord_append_afterWord, List.append_assoc, pathFrom?]
  cases found : Text.after? keyword (firstWord line ++ (afterWord line ++ below after)) with
  | none =>
      rw [if_neg]
      · rfl
      · intro isKeyword
        rw [isKeyword, Text.after?_eq_some_iff.mpr rfl] at found
        cases found
  | some rest =>
      have whole := Text.after?_eq_some_iff.mp found
      rw [Option.bind_some]
      split
      · rename_i isKeyword
        rw [isKeyword, List.append_cancel_left_eq] at whole
        rw [whole, pathAfterWord?_eq_path? (whole ▸
          fun c => isBlank_head_afterWord_append_below)]
      · -- The word goes on behind the letters of the other one.
        rename_i otherWord
        cases rest with
        | nil => rfl
        | cons c rest =>
            rw [pathAfterWord?, if_neg]
            intro isBlank
            have byKeyword : (keyword ++ c :: rest).takeWhile
                (fun d => !Text.isBlank d) = keyword :=
              takeWhile_notBlank keyword_notBlank (by simp [isBlank])
            rw [← whole, takeWhile_notBlank (fun d => firstWord_notBlank)
              fun d => isBlank_head_afterWord_append_below] at byKeyword
            exact otherWord byKeyword

/-- Lines without a word are passed over. -/
theorem pathFrom?_of_blank
    {line : List Char}
    (blank : Text.trimStart line = [])
    (after : List (List Char)) :
    pathFrom? line after = none := by
  rw [pathFrom?, firstWord, blank, if_neg (by decide)]

/-- The first line that gives a path decides. -/
theorem firstDirective?_cons
    (line : List Char)
    (after : List (List Char)) :
    firstDirective? (line :: after) =
      (pathFrom? line after).or (firstDirective? after) := by
  rw [firstDirective?, intercalate_eq_append_below]
  by_cases blank : Text.trimStart line = []
  · rw [pathFrom?_of_blank blank, Option.none_or, directive?, Text.trimStart_append,
      if_pos blank, ← directive?]
    cases after with
    | nil => rfl
    | cons next after =>
        -- A search from a blank line is one from the line below.
        have skips : directive? (below (next :: after)) =
            directive? (next ++ below after) := by
          change directive? ('\n' :: next ++ below after) = _
          rw [directive?, directive?]
          rfl
        rw [skips, firstDirective?, intercalate_eq_append_below, ← Option.or_assoc,
          Option.or_self]
  · rw [directive?_eq_pathFrom? blank]

end Manifest
end EnvTags
