import EnvTags.Name
import EnvTags.Proofs.Text.Chunk
import Mathlib.Data.String.Basic
import Mathlib.Order.Defs.LinearOrder

/-!
# Names and their bytes

Different names have different bytes, since the bytes of a text are never those of a
name that is no text. So the order of the bytes is one of the names. A name that is a
text is read as that text. No other name is read as a text without replacements.
-/

namespace EnvTags
namespace Name

theorem row_ne_of_isNoText
    {raw : List UInt8}
    (isNoText : String.fromUTF8? ⟨raw.toArray⟩ = none)
    (characters : String) :
    (text characters).row ≠ raw := by
  rintro rfl
  have isText : (⟨(text characters).row.toArray⟩ : ByteArray).IsValidUTF8 := by
    simpa [row] using characters.isValidUTF8
  simp [String.fromUTF8?, isText] at isNoText

theorem row_injective : Function.Injective row := by
  rintro (left | ⟨left, leftNoText⟩) (right | ⟨right, rightNoText⟩) same
  · have sameBytes : left.toByteArray = right.toByteArray :=
      ByteArray.ext (Array.toList_inj.mp same)
    rw [String.toByteArray_inj.mp sameBytes]
  · exact absurd same (row_ne_of_isNoText rightNoText left)
  · exact absurd same.symm (row_ne_of_isNoText leftNoText right)
  · obtain rfl : left = right := same
    rfl

instance (left right : Name) : Decidable (left ≤ right) :=
  inferInstanceAs (Decidable (left.row ≤ right.row))

instance : LinearOrder Name where
  le_refl name := List.le_refl name.row
  le_trans _ _ _ := List.le_trans
  lt_iff_le_not_ge left right := by
    exact Std.lt_iff_le_and_not_ge (α := List UInt8)
  le_antisymm _ _ below above := row_injective (List.le_antisymm below above)
  le_total left right := List.le_total left.row right.row
  toDecidableLE := inferInstance
  toDecidableEq := inferInstance
  toDecidableLT := inferInstance

/-- A name is a text. -/
def IsText (name : Name) : Prop :=
  name.text?.isSome = true

instance (name : Name) : Decidable name.IsText :=
  inferInstanceAs (Decidable (name.text?.isSome = true))

@[simp] theorem isText_text (characters : String) : (text characters).IsText := rfl

/-- A name that is a text is read as that text. -/
theorem IsText.text_read
    {name : Name}
    (isText : name.IsText) :
    text name.read = name := by
  cases name with
  | text characters => rfl
  | bytes raw isNoText => cases isText

theorem map_text_read
    {names : List Name}
    (areTexts : ∀ name ∈ names, name.IsText) :
    (names.map read).map text = names := by
  induction names with
  | nil => rfl
  | cons name names inductionHypothesis =>
      obtain ⟨isText, othersAreTexts⟩ := List.forall_mem_cons.mp areTexts
      rw [List.map_cons, List.map_cons, isText.text_read,
        inductionHypothesis othersAreTexts]

/-- A name is read from its bytes, whether it is a text or not. -/
theorem read_eq_readBytes (name : Name) : name.read = Text.readBytes name.row := by
  cases name with
  | text characters => exact (Text.readBytes_bytes characters).symm
  | bytes raw isNoText => rfl

/-- Only a text is read as a text without replacements. -/
theorem read_eq_iff
    {name : Name}
    {characters : String}
    (unbroken : Text.replacement ∉ characters.toList) :
    name.read = characters ↔ name = characters := by
  cases name with
  | text other => exact (text.injEq other characters ▸ Iff.rfl)
  | bytes raw isNoText =>
      refine ⟨?_, fun isText => by cases isText⟩
      rintro rfl
      exact absurd (Text.replacement_mem_readBytes isNoText) unbroken

/-- Only the empty name is read as the empty text. -/
theorem read_ne_empty
    {name : Name}
    (nonempty : name ≠ "") :
    name.read ≠ "" :=
  mt (read_eq_iff (by decide)).mp nonempty

/-- Two names that are no texts. -/
def twins : Name × Name :=
  (bytes [254] (by decide), bytes [255] (by decide))

/-- They are read alike. -/
example : twins.1 ≠ twins.2 ∧ twins.1.read = twins.2.read := by
  decide

end Name
end EnvTags
