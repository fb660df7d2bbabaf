import EnvTags.ImportPath
import EnvTags.Proofs.Path
import EnvTags.Proofs.Text.Split
import Mathlib.Data.List.Basic

/-!
# Escaped import paths

A character that is not a capital stays as it is in the escaped form, and no
character becomes a slash. So the segments of an escaped path are the escaped
segments of the path, and what can name an entry still can when it is escaped.
-/

namespace EnvTags
namespace ImportPath

/-- A capital becomes a small letter. -/
theorem isLower_toLower
    {c : Char}
    (capital : c.isUpper = true) :
    c.toLower.isLower = true := by
  have bounds : 'A'.val ≤ c.val ∧ c.val ≤ 'Z'.val := of_decide_eq_true capital
  have lowered : c.toLower.val = c.val + 32 := congrArg Char.val (dif_pos bounds)
  have low : 65 ≤ c.val.toNat := UInt32.le_iff_toNat_le.mp bounds.1
  have high : c.val.toNat ≤ 90 := UInt32.le_iff_toNat_le.mp bounds.2
  have value : c.toLower.val.toNat = c.val.toNat + 32 := by
    rw [lowered, UInt32.toNat_add]
    exact Nat.mod_eq_of_lt
      (Nat.lt_of_le_of_lt (Nat.add_le_add_right high 32) (by decide))
  have lowest : 'a'.val ≤ c.toLower.val :=
    UInt32.le_iff_toNat_le.mpr (value ▸ Nat.add_le_add_right low 32)
  have greatest : c.toLower.val ≤ 'z'.val :=
    UInt32.le_iff_toNat_le.mpr (value ▸ Nat.add_le_add_right high 32)
  exact (Bool.and_eq_true _ _).mpr
    ⟨decide_eq_true lowest, decide_eq_true greatest⟩

/-- A character comes from a slash exactly if it is a slash. -/
theorem slash_mem_escapeChar_iff {c : Char} :
    '/' ∈ escapeChar c ↔ c = '/' := by
  unfold escapeChar
  split
  · rename_i capital
    have lower := isLower_toLower capital
    constructor
    · intro isSlash
      have isLetter : '/' = c.toLower := by simpa using isSlash
      rw [← isLetter] at lower
      exact absurd lower (by decide)
    · rintro rfl
      exact absurd capital (by decide)
  · simp [eq_comm]

theorem slash_mem_escape_iff {path : String} :
    '/' ∈ (escape path).toList ↔ '/' ∈ path.toList := by
  simp [escape, slash_mem_escapeChar_iff]

/-- A path is escaped part by part. -/
theorem escape_joined (parts : List String) :
    escape (Text.joined '/' parts) = Text.joined '/' (parts.map escape) := by
  apply String.toList_injective
  rw [escape, String.toList_ofList]
  induction parts with
  | nil => rfl
  | cons part parts inductionHypothesis =>
      cases parts with
      | nil => simp [Text.joined, escape]
      | cons next others =>
          simp only [Text.joined, String.toList_ofList, List.map_cons,
            List.intercalate_cons_cons, List.flatMap_append] at inductionHypothesis ⊢
          rw [inductionHypothesis]
          simp [escape, escapeChar]

/-- The parts of a path, in their escaped forms. -/
def escapedParts (path : String) : List String :=
  (Text.parts '/' path).map escape

/-- The parts of an escaped path are the escaped parts of the path. -/
theorem parts_escape (path : String) :
    Text.parts '/' (escape path) = escapedParts path := by
  have unmarked : ∀ part ∈ escapedParts path, '/' ∉ part.toList := by
    intro escaped present
    obtain ⟨part, isPart, rfl⟩ := List.mem_map.mp present
    rw [slash_mem_escape_iff]
    exact Text.notMem_of_mem_parts isPart
  have joined := escape_joined (Text.parts '/' path)
  rw [Text.joined_parts] at joined
  exact joined ▸ Text.parts_joined (by simp [Text.parts_ne_nil]) unmarked

/-- A path whose escaped form has no exclamation mark has no capital, so it is not
changed. -/
theorem escape_eq_self_of_notMem
    {path : String}
    (unmarked : '!' ∉ (escape path).toList) :
    escape path = path := by
  have same : ∀ c ∈ path.toList, escapeChar c = [c] := by
    intro c inside
    by_cases capital : c.isUpper = true
    · simp only [escape, String.toList_ofList, List.mem_flatMap, not_exists,
        not_and] at unmarked
      exact absurd (by simp [escapeChar, capital]) (unmarked c inside)
    · simp [escapeChar, capital]
  rw [escape, List.flatMap_congr same, List.flatMap_singleton',
    String.ofList_toList]

/-- What steps to an entry does so when it is escaped. -/
theorem stepsToEntry_escape
    {part : String}
    (steps : Path.StepsToEntry part) :
    Path.StepsToEntry (escape part) := by
  have differs : ∀ other : String, '!' ∉ other.toList → (part : Name) ≠ other →
      (escape part : Name) ≠ other := by
    intro other unmarked different same
    obtain rfl : escape part = other := Name.text.inj same
    rw [escape_eq_self_of_notMem unmarked] at different
    exact different rfl
  exact Path.stepsToEntry_iff.mpr ⟨differs "" (by decide) steps.ne_empty,
    differs "." (by decide) steps.ne_dot, differs ".." (by decide) steps.2⟩

/-- Parts that step to entries can name entries when they are escaped. -/
theorem isEntryName_of_mem_escapedParts
    {path : String}
    (steps : ∀ part ∈ Text.parts '/' path, Path.StepsToEntry part)
    {segment : String}
    (present : segment ∈ escapedParts path) :
    Path.IsEntryName segment := by
  obtain ⟨part, isPart, rfl⟩ := List.mem_map.mp present
  exact ⟨stepsToEntry_escape (steps part isPart),
    mt slash_mem_escape_iff.mp (Text.notMem_of_mem_parts isPart)⟩

end ImportPath
end EnvTags
