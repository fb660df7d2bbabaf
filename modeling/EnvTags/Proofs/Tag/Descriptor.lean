import EnvTags.Proofs.Text.Quoted
import EnvTags.Proofs.Text.Split
import EnvTags.Tag.Descriptor

/-!
# What descriptions are made of

The name, the prefix and the default value of a description are cut out of the
value that the tag has under its key. So each of their characters is one of the
value, and they have a line feed only if the value is written with an escape for
one. The name ends at the first comma. It is empty if the value is empty or starts
with a comma.
-/

namespace EnvTags
namespace Tag

/-- A value is what the first pair with the key stands for. -/
theorem exists_pair_of_lookup
    {tag key value : String}
    (found : lookup tag key = some value) :
    ∃ pair ∈ pairs tag.toList, pair.name = key.toList ∧
      Text.Quoted.decode pair.value = some value := by
  unfold lookup at found
  split at found
  · cases found
  · rename_i pair isFirst
    refine ⟨pair, List.mem_of_find?_eq_some isFirst, ?_, found⟩
    simpa using List.find?_some isFirst

theorem describe_eq_some_iff
    {scheme : Scheme}
    {tag : String}
    {descriptor : Descriptor} :
    scheme.describe tag = some descriptor ↔
      ∃ value, lookup tag scheme.key = some value ∧
        Descriptor.ofItems scheme (value.toList.splitOn ',') = descriptor := by
  unfold Scheme.describe
  cases lookup tag scheme.key <;> simp

namespace Descriptor

/-! ## The name -/

/-- The items after the first one do not change the name. -/
theorem variableName_foldl_read
    (scheme : Scheme)
    (items : List (List Char))
    (descriptor : Descriptor) :
    (items.foldl (read scheme) descriptor).variableName =
      descriptor.variableName := by
  induction items generalizing descriptor with
  | nil => rfl
  | cons text items inductionHypothesis =>
      rw [List.foldl_cons, inductionHypothesis, read]
      split
      · rfl
      · split <;> rfl

/-- The name is empty if the value is empty or starts with a comma. -/
theorem variableName_eq_empty_iff
    {scheme : Scheme}
    {value : String} :
    (ofItems scheme (value.toList.splitOn ',')).variableName = "" ↔
      value = "" ∨ value.toList.head? = some ',' := by
  cases characters : value.toList with
  | nil => simp_all [ofItems]
  | cons c rest =>
      have nonempty : value ≠ "" := by
        rintro rfl
        simp at characters
      rw [List.splitOn_cons_eq_if_modifyHead]
      split
      · rename_i isComma
        rw [ofItems, variableName_foldl_read]
        simpa [nonempty] using isComma
      · rename_i notComma
        obtain ⟨first, others, split⟩ :=
          List.exists_cons_of_ne_nil (List.splitOn_ne_nil ',' rest)
        rw [split, List.modifyHead_cons, ofItems, variableName_foldl_read]
        simpa [nonempty] using notComma

/-! ## Characters -/

/-- A character occurs in the name, in the prefix or in the default value. -/
def Mentions (descriptor : Descriptor) (c : Char) : Prop :=
  c ∈ descriptor.variableName.toList ∨ c ∈ descriptor.containerPrefix.toList ∨
    c ∈ descriptor.defaultValue.toList

/-- What follows the equals sign is part of the item. -/
theorem mem_of_mem_item
    {text : List Char}
    {c : Char}
    (inside : c ∈ (item text).2) :
    c ∈ text := by
  unfold item at inside
  cases split : Text.cut '=' text with
  | none => simp [split] at inside
  | some parts =>
      obtain ⟨whole, -⟩ := Text.cut_eq_some_iff.mp split
      rw [whole]
      simp only [split, Option.getD_some] at inside
      simp [inside]

/-- An item adds its own characters only. -/
theorem mentions_read
    {scheme : Scheme}
    {descriptor : Descriptor}
    {text : List Char}
    {c : Char}
    (mentions : (descriptor.read scheme text).Mentions c) :
    descriptor.Mentions c ∨ c ∈ text := by
  unfold read at mentions
  simp only at mentions
  split at mentions
  · rcases mentions with inName | inPrefix | inDefault
    · exact .inl (.inl inName)
    · rw [String.toList_ofList] at inPrefix
      exact .inr (mem_of_mem_item inPrefix)
    · exact .inl (.inr (.inr inDefault))
  · split at mentions
    · rcases mentions with inName | inPrefix | inDefault
      · exact .inl (.inl inName)
      · exact .inl (.inr (.inl inPrefix))
      · rw [String.toList_ofList] at inDefault
        exact .inr (mem_of_mem_item inDefault)
    · exact .inl mentions

theorem mentions_foldl_read
    {scheme : Scheme}
    {items : List (List Char)}
    {descriptor : Descriptor}
    {c : Char}
    (mentions : (items.foldl (read scheme) descriptor).Mentions c) :
    descriptor.Mentions c ∨ ∃ text ∈ items, c ∈ text := by
  induction items generalizing descriptor with
  | nil => exact .inl mentions
  | cons text items inductionHypothesis =>
      rcases inductionHypothesis mentions with first | ⟨other, inItems, inside⟩
      · rcases mentions_read first with before | inText
        · exact .inl before
        · exact .inr ⟨text, List.mem_cons_self, inText⟩
      · exact .inr ⟨other, List.mem_cons_of_mem _ inItems, inside⟩

/-- The characters of a description are those of its items. -/
theorem mentions_ofItems
    {scheme : Scheme}
    {items : List (List Char)}
    {c : Char}
    (mentions : (ofItems scheme items).Mentions c) :
    ∃ text ∈ items, c ∈ text := by
  cases items with
  | nil => simp [ofItems, Mentions] at mentions
  | cons name items =>
      rcases mentions_foldl_read mentions with first | ⟨other, inItems, inside⟩
      · exact ⟨name, List.mem_cons_self, by simpa [Mentions] using first⟩
      · exact ⟨other, List.mem_cons_of_mem _ inItems, inside⟩

end Descriptor

/-- The value that a tag has under a key is written with an escape for a line
feed. -/
def EscapesLineFeed (key tag : String) : Prop :=
  ∃ pair ∈ pairs tag.toList, pair.name = key.toList ∧
    Text.Quoted.WritesLineFeed pair.value

/-- A description has a line feed only if the tag is written with an escape for
one. -/
theorem escapesLineFeed_of_mentions
    {scheme : Scheme}
    {tag : String}
    {descriptor : Descriptor}
    (described : scheme.describe tag = some descriptor)
    (mentions : descriptor.Mentions '\n') :
    EscapesLineFeed scheme.key tag := by
  obtain ⟨value, found, rfl⟩ := describe_eq_some_iff.mp described
  obtain ⟨text, isItem, inside⟩ := Descriptor.mentions_ofItems mentions
  obtain ⟨pair, inPairs, isKey, decoded⟩ := exists_pair_of_lookup found
  refine ⟨pair, inPairs, isKey, ?_⟩
  rw [← Text.Quoted.mem_decode_iff decoded]
  exact (Text.mem_of_mem_splitOn isItem inside).1

end Tag
end EnvTags
