import Mathlib.Data.List.Perm.Basic
import Mathlib.Data.List.TakeWhile
import EnvTags.Proofs.Tag.Row
import EnvTags.Tag.Descriptor

/-!
# Writing a description into a tag

A description is written as a name and some items with commas between them, spelled
as the body of a literal and put into a tag under the recognised key. Two items that
use different flags can be read in either order, so the items can stand in any. The
description that the tag gives is the one that was written.
-/

namespace EnvTags
namespace Tag

/-! ## Items -/

/-- An item uses a flag if the flag is what stands before its first equals sign. -/
def Uses (text : List Char) (flag : String) : Prop :=
  text.takeWhile (· != '=') = flag.toList

/-- The item of a flag, alone or with a value. -/
def flagItem (flag : String) : Option String → String
  | none => flag
  | some value => flag ++ "=" ++ value

/-- An item without an equals sign has no value. -/
theorem item_of_notMem
    {text : List Char}
    (plain : '=' ∉ text) :
    item text = (text, []) := by
  cases split : Text.cut '=' text with
  | none => simp [item, split]
  | some parts =>
      obtain ⟨whole, -⟩ := Text.cut_eq_some_iff.mp split
      exact absurd (by simp [whole]) plain

theorem item_append
    {flag : List Char}
    (plain : '=' ∉ flag)
    (value : List Char) :
    item (flag ++ '=' :: value) = (flag, value) := by
  rw [item, Text.cut_eq_some_iff.mpr ⟨rfl, plain⟩, Option.getD_some]

theorem takeWhile_of_notMem
    {text : List Char}
    (plain : '=' ∉ text) :
    text.takeWhile (· != '=') = text := by
  rw [List.takeWhile_eq_self_iff]
  intro c inside
  have different : c ≠ '=' := fun same => plain (same ▸ inside)
  simpa using different

theorem item_fst (text : List Char) :
    (item text).1 = text.takeWhile (· != '=') := by
  by_cases marked : '=' ∈ text
  · obtain ⟨flag, value, rfl, plain⟩ := List.eq_append_cons_of_mem marked
    rw [item_append plain]
    have all : ∀ c ∈ flag, (c != '=') = true :=
      List.takeWhile_eq_self_iff.mp (takeWhile_of_notMem plain)
    rw [List.takeWhile_append_of_pos all, List.takeWhile_cons_of_neg (by decide),
      List.append_nil]
  · rw [item_of_notMem marked, takeWhile_of_notMem marked]

/-- The item of a flag is cut into the flag and the value. -/
theorem item_flagItem
    {flag : String}
    (plain : '=' ∉ flag.toList)
    (value : Option String) :
    item (flagItem flag value).toList =
      (flag.toList, (value.getD "").toList) := by
  cases value with
  | none => exact item_of_notMem plain
  | some value =>
      have isItem : (flagItem flag (some value)).toList =
          flag.toList ++ '=' :: value.toList := by
        simp [flagItem]
      rw [isItem, item_append plain]
      rfl

theorem uses_flagItem
    {flag : String}
    (plain : '=' ∉ flag.toList)
    (value : Option String) :
    Uses (flagItem flag value).toList flag := by
  rw [Uses, ← item_fst, item_flagItem plain]

theorem uses_iff {text : List Char} {flag : String} :
    Uses text flag ↔ String.ofList (item text).1 = flag := by
  rw [Uses, ← item_fst, String.ofList_eq]

/-- An item uses one flag only. -/
theorem Uses.unique
    {text : List Char}
    {left right : String}
    (usesLeft : Uses text left)
    (usesRight : Uses text right) :
    left = right :=
  String.toList_inj.mp (usesLeft.symm.trans usesRight)

/-! ## Reading items -/

namespace Descriptor

theorem read_containerFlag
    {scheme : Scheme}
    {text : List Char}
    (uses : Uses text scheme.containerFlag)
    (descriptor : Descriptor) :
    descriptor.read scheme text =
      { descriptor with
        isContainer := true
        containerPrefix := String.ofList (item text).2 } := by
  rw [read, uses_iff.mp uses]
  simp

theorem read_defaultFlag
    {scheme : Scheme}
    {text : List Char}
    (different : scheme.containerFlag ≠ scheme.defaultFlag)
    (uses : Uses text scheme.defaultFlag)
    (descriptor : Descriptor) :
    descriptor.read scheme text =
      { descriptor with defaultValue := String.ofList (item text).2 } := by
  rw [read, uses_iff.mp uses]
  simp [different.symm]

/-- An item with neither flag is ignored. -/
theorem read_other
    {scheme : Scheme}
    {text : List Char}
    (notContainer : ¬Uses text scheme.containerFlag)
    (notDefault : ¬Uses text scheme.defaultFlag)
    (descriptor : Descriptor) :
    descriptor.read scheme text = descriptor := by
  rw [uses_iff] at notContainer notDefault
  rw [read]
  simp [notContainer, notDefault]

/-- Two items can be read in either order if they do not both use one of the
flags. -/
theorem read_read_comm
    {scheme : Scheme}
    {left right : List Char}
    (different : scheme.containerFlag ≠ scheme.defaultFlag)
    (oneContainer :
      ¬(Uses left scheme.containerFlag ∧ Uses right scheme.containerFlag))
    (oneDefault : ¬(Uses left scheme.defaultFlag ∧ Uses right scheme.defaultFlag))
    (descriptor : Descriptor) :
    (descriptor.read scheme left).read scheme right =
      (descriptor.read scheme right).read scheme left := by
  by_cases leftContainer : Uses left scheme.containerFlag
  · have notContainer := fun rightContainer =>
      oneContainer ⟨leftContainer, rightContainer⟩
    by_cases rightDefault : Uses right scheme.defaultFlag
    · simp only [read_containerFlag leftContainer,
        read_defaultFlag different rightDefault]
    · simp only [read_other notContainer rightDefault]
  · by_cases leftDefault : Uses left scheme.defaultFlag
    · have notDefault := fun rightDefault => oneDefault ⟨leftDefault, rightDefault⟩
      by_cases rightContainer : Uses right scheme.containerFlag
      · simp only [read_containerFlag rightContainer,
          read_defaultFlag different leftDefault]
      · simp only [read_other rightContainer notDefault]
    · simp only [read_other leftContainer leftDefault]

/-- Items with neither flag are ignored. -/
theorem foldl_read_others
    {scheme : Scheme}
    {items : List (List Char)}
    (others : ∀ text ∈ items,
      ¬Uses text scheme.containerFlag ∧ ¬Uses text scheme.defaultFlag)
    (descriptor : Descriptor) :
    items.foldl (read scheme) descriptor = descriptor := by
  induction items with
  | nil => rfl
  | cons text items inductionHypothesis =>
      obtain ⟨first, later⟩ := List.forall_mem_cons.mp others
      rw [List.foldl_cons, read_other first.1 first.2, inductionHypothesis later]

/-- The first item of the container flag, if there is one. -/
theorem foldl_read_container
    {scheme : Scheme}
    (plain : '=' ∉ scheme.containerFlag.toList)
    (container : Option (Option String))
    (name : String) :
    ((container.map (flagItem scheme.containerFlag)).toList.map String.toList).foldl
        (read scheme) { variableName := name } =
      { variableName := name
        isContainer := container.isSome
        containerPrefix := container.join.getD "" } := by
  cases container with
  | none => rfl
  | some value =>
      have uses := uses_flagItem plain value
      simp [read_containerFlag uses, item_flagItem plain]

/-- The first item of the default flag, if there is one. -/
theorem foldl_read_default
    {scheme : Scheme}
    (different : scheme.containerFlag ≠ scheme.defaultFlag)
    (plain : '=' ∉ scheme.defaultFlag.toList)
    (default : Option (Option String))
    (name containerPrefix : String)
    (isContainer : Bool) :
    ((default.map (flagItem scheme.defaultFlag)).toList.map String.toList).foldl
        (read scheme) ⟨name, isContainer, containerPrefix, ""⟩ =
      ⟨name, isContainer, containerPrefix, default.join.getD ""⟩ := by
  cases default with
  | none => rfl
  | some value =>
      have uses := uses_flagItem plain value
      simp [read_defaultFlag different uses, item_flagItem plain]

end Descriptor

/-! ## Written descriptions -/

/-- A key and two flags that can be recognised in a tag. -/
structure Scheme.IsSound (scheme : Scheme) : Prop where
  hasKey : scheme.key ≠ ""
  isKey : ∀ c ∈ scheme.key.toList, isNameChar c = true
  different : scheme.containerFlag ≠ scheme.defaultFlag
  containerFlag :
    ',' ∉ scheme.containerFlag.toList ∧ '=' ∉ scheme.containerFlag.toList
  defaultFlag : ',' ∉ scheme.defaultFlag.toList ∧ '=' ∉ scheme.defaultFlag.toList

/-- What is written about a field. Each of the two flags can be left out, stand
alone or have a value. -/
structure Writing where
  /-- The name of the variable. -/
  name : String
  /-- The flag that makes the field a container, with the prefix. -/
  container : Option (Option String)
  /-- The flag that gives the default value. -/
  default : Option (Option String)
  /-- The items that use neither flag. -/
  others : List String

namespace Writing

/-- The description that is written. -/
def descriptor (writing : Writing) : Descriptor where
  variableName := writing.name
  isContainer := writing.container.isSome
  containerPrefix := writing.container.join.getD ""
  defaultValue := writing.default.join.getD ""

/-- The items that are written behind the name, in one of their orders. -/
def items (writing : Writing) (scheme : Scheme) : List String :=
  (writing.container.map (flagItem scheme.containerFlag)).toList ++
    (writing.default.map (flagItem scheme.defaultFlag)).toList ++ writing.others

/-- Nothing that is written has a comma, and the other items are no uses of the
flags. -/
structure IsWritable (writing : Writing) (scheme : Scheme) : Prop where
  name : ',' ∉ writing.name.toList
  container : ∀ value ∈ writing.container.join, ',' ∉ value.toList
  default : ∀ value ∈ writing.default.join, ',' ∉ value.toList
  others : ∀ other ∈ writing.others, ',' ∉ other.toList ∧
    ¬Uses other.toList scheme.containerFlag ∧ ¬Uses other.toList scheme.defaultFlag

variable
  {writing : Writing}
  {scheme : Scheme}

theorem cases_of_mem_items
    {text : String}
    (isItem : text ∈ writing.items scheme) :
    (∃ value, writing.container = some value ∧
        flagItem scheme.containerFlag value = text) ∨
      (∃ value, writing.default = some value ∧
        flagItem scheme.defaultFlag value = text) ∨
      text ∈ writing.others := by
  simp only [items, List.mem_append, Option.mem_toList, Option.map_eq_some_iff,
    or_assoc] at isItem
  exact isItem

section Writable

variable
  (sound : scheme.IsSound)
  (writable : writing.IsWritable scheme)
include sound writable

theorem comma_notMem_of_mem_items
    {text : String}
    (isItem : text ∈ writing.items scheme) :
    ',' ∉ text.toList := by
  have plain : ∀ {flag : String} {value : Option String}, ',' ∉ flag.toList →
      (∀ string ∈ value, ',' ∉ string.toList) →
      ',' ∉ (flagItem flag value).toList := by
    rintro flag (_ | value) flagPlain valuePlain
    · exact flagPlain
    · simpa [flagItem, flagPlain] using valuePlain
  rcases cases_of_mem_items isItem with
    ⟨value, isValue, rfl⟩ | ⟨value, isValue, rfl⟩ | inOthers
  · exact plain sound.containerFlag.1 (by simpa [isValue] using writable.container)
  · exact plain sound.defaultFlag.1 (by simpa [isValue] using writable.default)
  · exact (writable.others text inOthers).1

/-- Only the item of a flag uses that flag. -/
theorem exists_of_uses
    {flag text : String}
    (isFlag : flag = scheme.containerFlag ∨ flag = scheme.defaultFlag)
    (isItem : text ∈ writing.items scheme)
    (uses : Uses text.toList flag) :
    (∃ value, flag = scheme.containerFlag ∧ writing.container = some value ∧
        flagItem flag value = text) ∨
      (∃ value, flag = scheme.defaultFlag ∧ writing.default = some value ∧
        flagItem flag value = text) := by
  rcases cases_of_mem_items isItem with
    ⟨value, isValue, rfl⟩ | ⟨value, isValue, rfl⟩ | inOthers
  · obtain rfl := uses.unique (uses_flagItem sound.containerFlag.2 value)
    exact .inl ⟨value, rfl, isValue, rfl⟩
  · obtain rfl := uses.unique (uses_flagItem sound.defaultFlag.2 value)
    exact .inr ⟨value, rfl, isValue, rfl⟩
  · obtain ⟨-, notContainer, notDefault⟩ := writable.others text inOthers
    rcases isFlag with rfl | rfl
    · exact absurd uses notContainer
    · exact absurd uses notDefault

/-- Two items that use one of the flags are the same. -/
theorem eq_of_uses
    {flag left right : String}
    (isFlag : flag = scheme.containerFlag ∨ flag = scheme.defaultFlag)
    (leftItem : left ∈ writing.items scheme)
    (rightItem : right ∈ writing.items scheme)
    (uses : Uses left.toList flag ∧ Uses right.toList flag) :
    left = right := by
  have different := sound.different
  rcases exists_of_uses sound writable isFlag leftItem uses.1 with
    ⟨value, rfl, isValue, rfl⟩ | ⟨value, rfl, isValue, rfl⟩ <;>
    rcases exists_of_uses sound writable isFlag rightItem uses.2 with
      ⟨other, same, isOther, rfl⟩ | ⟨other, same, isOther, rfl⟩
  · rw [Option.some.inj (isValue.symm.trans isOther)]
  · exact absurd same different
  · exact absurd same.symm different
  · rw [Option.some.inj (isValue.symm.trans isOther)]

/-- The items can be read in any order. -/
theorem foldl_read_of_perm
    {order : List String}
    (perm : order.Perm (writing.items scheme))
    (descriptor : Descriptor) :
    (order.map String.toList).foldl (Descriptor.read scheme) descriptor =
      ((writing.items scheme).map String.toList).foldl (Descriptor.read scheme)
        descriptor := by
  apply (perm.map String.toList).foldl_eq'
  intro left leftInside right rightInside descriptor
  obtain ⟨left, inOrder, rfl⟩ := List.mem_map.mp leftInside
  obtain ⟨right, rightInOrder, rfl⟩ := List.mem_map.mp rightInside
  have unique : ∀ {flag : String},
      flag = scheme.containerFlag ∨ flag = scheme.defaultFlag →
      Uses left.toList flag ∧ Uses right.toList flag → left = right := by
    intro flag isFlag
    exact eq_of_uses sound writable isFlag (perm.mem_iff.mp inOrder)
      (perm.mem_iff.mp rightInOrder)
  by_cases same : left = right
  · rw [same]
  · exact Descriptor.read_read_comm sound.different
      (mt (unique (.inl rfl)) same) (mt (unique (.inr rfl)) same) descriptor

/-- In the order of `items` the two flags are read first. -/
theorem foldl_read_items :
    ((writing.items scheme).map String.toList).foldl (Descriptor.read scheme)
        { variableName := writing.name } =
      writing.descriptor := by
  have others : ∀ text ∈ writing.others.map String.toList,
      ¬Uses text scheme.containerFlag ∧ ¬Uses text scheme.defaultFlag := by
    intro text inside
    obtain ⟨other, inOthers, rfl⟩ := List.mem_map.mp inside
    exact (writable.others other inOthers).2
  rw [items, List.map_append, List.map_append, List.foldl_append, List.foldl_append,
    Descriptor.foldl_read_container sound.containerFlag.2,
    Descriptor.foldl_read_default sound.different sound.defaultFlag.2,
    Descriptor.foldl_read_others others]
  rfl

/-- The description that is read out of a value is the one that was written. -/
theorem ofItems_joined
    {order : List String}
    (perm : order.Perm (writing.items scheme)) :
    Descriptor.ofItems scheme
        ((Text.joined ',' (writing.name :: order)).toList.splitOn ',') =
      writing.descriptor := by
  have plain : ∀ text ∈ writing.name :: order, ',' ∉ text.toList := by
    intro text inside
    rcases List.mem_cons.mp inside with rfl | inOrder
    · exact writable.name
    · exact comma_notMem_of_mem_items sound writable (perm.mem_iff.mp inOrder)
  rw [Text.joined, String.toList_ofList,
    List.splitOn_intercalate ',' (by simpa using plain) (by simp), List.map_cons,
    Descriptor.ofItems, String.ofList_toList,
    foldl_read_of_perm sound writable perm, foldl_read_items sound writable]

end Writable

end Writing

/-- A description that is written into a tag is read back. The value can be spelled
in any way, its items can stand in any order, pairs with other names can stand in
front of it, and any text can stand behind it. -/
theorem describe_written
    {scheme : Scheme}
    {writing : Writing}
    {order : List String}
    {body : List Char}
    {before : List (Nat × Pair)}
    (sound : scheme.IsSound)
    (writable : writing.IsWritable scheme)
    (perm : order.Perm (writing.items scheme))
    (spells :
      Text.Quoted.Spells body (Text.joined ',' (writing.name :: order)).toList)
    (others : ∀ place ∈ before,
      place.2.IsWellFormed ∧ place.2.name ≠ scheme.key.toList)
    (spaces : Nat)
    (after : List Char) :
    scheme.describe
        (String.ofList
          (row (before ++ [(spaces, ⟨scheme.key.toList, body⟩)]) ++ after)) =
      some writing.descriptor := by
  have wellFormed : Pair.IsWellFormed ⟨scheme.key.toList, body⟩ := {
    hasName := by simpa using sound.hasKey
    isName := sound.isKey
    encloses := encloses_of_spells spells }
  rw [Scheme.describe, lookup_written rfl wellFormed others,
    Text.Quoted.decode_of_spells spells]
  simp only [String.ofList_toList, Writing.ofItems_joined sound writable perm]

/-- A description with both flags and an item that uses none of them. -/
def addressWriting : Writing where
  name := "URL"
  container := some none
  default := some (some "a=é")
  others := ["omitempty"]

/-- The description is read out of a tag that has it behind another pair, with the
items in another order and one character written as an escape. -/
theorem describe_addressTag :
    Scheme.describe {}
        "json:\"\\\"url\\\"\"  env:\"URL,omitempty,default=a=\\u00e9,prefix\" etc" =
      some ⟨"URL", true, "", "a=é"⟩ := by
  have sound : Scheme.IsSound {} := {
    hasKey := by decide
    isKey := List.forall_iff_forall_mem.mp (by decide)
    different := by decide
    containerFlag := by decide
    defaultFlag := by decide }
  have writable : addressWriting.IsWritable {} := {
    name := by decide
    container := by decide
    default := by decide
    others := by unfold Uses; decide }
  have perm : ["omitempty", "default=a=é", "prefix"].Perm
      (addressWriting.items {}) := by
    decide
  have escape : Text.Quoted.SpellsChar "\\u00e9".toList 'é' := by
    refine .fourDigits rfl ⟨[0, 0, 14, 9], ?_, by decide, by decide⟩
    unfold Text.Quoted.IsDigit
    decide
  have front := Text.Quoted.spells_self "URL,omitempty,default=a=".toList
    (List.forall_iff_forall_mem.mp (by decide))
  have back := Text.Quoted.spells_self ",prefix".toList
    (List.forall_iff_forall_mem.mp (by decide))
  have spells : Text.Quoted.Spells "URL,omitempty,default=a=\\u00e9,prefix".toList
      (Text.joined ',' ["URL", "omitempty", "default=a=é", "prefix"]).toList :=
    (front.append escape.spells).append back
  have encloses : Encloses "\\\"url\\\"".toList :=
    have word : Encloses "url".toList :=
      encloses_of_forall (List.forall_iff_forall_mem.mp (by decide))
    .hidden (word.append (.hidden .nil))
  have others : ∀ place ∈ [(0, (⟨"json".toList, "\\\"url\\\"".toList⟩ : Pair))],
      place.2.IsWellFormed ∧ place.2.name ≠ (Scheme.key {}).toList := by
    rw [List.forall_mem_singleton]
    exact ⟨⟨by decide, List.forall_iff_forall_mem.mp (by decide), encloses⟩,
      by decide⟩
  exact describe_written sound writable perm spells others 2 " etc".toList

end Tag
end EnvTags
