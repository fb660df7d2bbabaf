import EnvTags.Import
import EnvTags.Proofs.Text.Split
import Mathlib.Data.List.Basic

/-!
# Imports that bind a name

An import binds its alias, or the last segment of its path if it has no alias. A
name refers to the first import that has it as an alias, else to the first that
binds it otherwise. Only if no import binds the name it refers to one whose path
merely contains it. The main statement says this, and that imports which do not bind
the name may be inserted anywhere next to one that does.
-/

namespace EnvTags
namespace Text

/-- A text occurs in another one if it stands somewhere in it. -/
theorem occursIn_iff_isInfix {part text : List Char} :
    occursIn part text = true ↔ part <:+: text := by
  induction text with
  | nil => simp [occursIn]
  | cons c rest inductionHypothesis =>
      rw [occursIn, Bool.or_eq_true, List.isPrefixOf_iff_prefix, inductionHypothesis,
        List.infix_cons_iff]

end Text

namespace Import

/-! ## What an import binds -/

/-- A path ends in a segment: the segment has no slash and stands after one, or it is
the whole path. -/
def EndsIn (path segment : String) : Prop :=
  '/' ∉ segment.toList ∧
    (path = segment ∨ ∃ before, path = before ++ "/" ++ segment)

theorem exists_endsIn (path : String) : ∃ segment, EndsIn path segment := by
  by_cases slashed : '/' ∈ path.toList
  · -- The last slash is the first one from the end.
    obtain ⟨after, before, split, unslashed⟩ :=
      List.eq_append_cons_of_mem (List.mem_reverse.mpr slashed)
    refine ⟨String.ofList after.reverse, by simpa using unslashed,
      .inr ⟨String.ofList before.reverse, ?_⟩⟩
    apply String.toList_injective
    rw [← List.reverse_inj, split]
    simp
  · exact ⟨path, slashed, .inl rfl⟩

theorem lastSegmentOf_of_endsIn
    {path segment : String}
    (ends : EndsIn path segment) :
    lastSegmentOf path = segment := by
  obtain ⟨unslashed, rfl | ⟨before, rfl⟩⟩ := ends
  · simp [lastSegmentOf, Text.parts_eq_singleton_iff.mpr unslashed]
  · have split : (before ++ "/" ++ segment).toList =
        before.toList ++ '/' :: segment.toList := by
      simp
    simp [lastSegmentOf, Text.parts_eq_append split,
      Text.parts_eq_singleton_iff.mpr unslashed]

/-- The last segment of a path is the one that it ends in. -/
theorem lastSegmentOf_eq_iff_endsIn {path segment : String} :
    lastSegmentOf path = segment ↔ EndsIn path segment := by
  constructor
  · rintro rfl
    obtain ⟨segment, ends⟩ := exists_endsIn path
    rwa [lastSegmentOf_of_endsIn ends]
  · exact lastSegmentOf_of_endsIn

/-- An import has no alias, and its path ends in a name. -/
def EndsUnaliased (name : String) (imported : Import) : Prop :=
  imported.name = none ∧ EndsIn imported.path name

/-- An import binds a name. -/
def Binds (name : String) (imported : Import) : Prop :=
  imported.name = some name ∨ EndsUnaliased name imported

/-- A name stands somewhere in the path of an import. -/
def Contains (name : String) (imported : Import) : Prop :=
  ∃ before after, imported.path = before ++ name ++ after

theorem hasAlias_iff {name : String} {imported : Import} :
    hasAlias name imported = true ↔ imported.name = some name := by
  simp [hasAlias]

theorem hasLastSegment_iff {name : String} {imported : Import} :
    hasLastSegment name imported = true ↔ EndsUnaliased name imported := by
  simp [hasLastSegment, lastSegment, lastSegmentOf_eq_iff_endsIn, EndsUnaliased]

theorem mentions_iff {name : String} {imported : Import} :
    mentions name imported = true ↔ Contains name imported := by
  rw [mentions, Text.occursIn_iff_isInfix]
  constructor
  · rintro ⟨before, after, split⟩
    refine ⟨String.ofList before, String.ofList after, ?_⟩
    apply String.toList_injective
    simp [← split]
  · rintro ⟨before, after, split⟩
    exact ⟨before.toList, after.toList, by simp [split]⟩

/-! ## The first import of a kind -/

/-- The first of some imports that fits. -/
def IsFirst
    (Fits : Import → Prop)
    (imports : List Import)
    (imported : Import) : Prop :=
  ∃ before after, imports = before ++ imported :: after ∧ Fits imported ∧
    ∀ earlier ∈ before, ¬Fits earlier

section First

variable {Fits : Import → Prop} {fits : Import → Bool}
  (fits_iff : ∀ imported, fits imported = true ↔ Fits imported)
  {imports : List Import}
include fits_iff

theorem find?_eq_some_iff_isFirst {imported : Import} :
    imports.find? fits = some imported ↔ IsFirst Fits imports imported := by
  rw [List.find?_eq_some_iff_append, IsFirst, fits_iff]
  simp only [Bool.not_eq_true', ← Bool.not_eq_true, fits_iff]
  constructor
  · rintro ⟨isFit, before, after, split, others⟩
    exact ⟨before, after, split, isFit, others⟩
  · rintro ⟨before, after, split, isFit, others⟩
    exact ⟨isFit, before, after, split, others⟩

theorem find?_eq_none_iff_not :
    imports.find? fits = none ↔ ∀ imported ∈ imports, ¬Fits imported := by
  simp only [List.find?_eq_none, fits_iff]

end First

/-! ## The import that is bound -/

/-- The import that a name is bound to: the first one with it as an alias, else the
first one that binds it without an alias. -/
inductive IsBinding (name : String) (imports : List Import) : Import → Prop
  /-- The first import with the alias. -/
  | alias {imported : Import}
      (first : IsFirst (·.name = some name) imports imported) :
      IsBinding name imports imported
  /-- The first import that ends in the name, where none has it as an alias. -/
  | segment {imported : Import}
      (unaliased : ∀ other ∈ imports, other.name ≠ some name)
      (first : IsFirst (EndsUnaliased name) imports imported) :
      IsBinding name imports imported

/-- The import that a name is bound to, if there is one. -/
def binding? (name : String) (imports : List Import) : Option Import :=
  (imports.find? (hasAlias name)).or (imports.find? (hasLastSegment name))

theorem bound?_eq_or (name : String) (imports : List Import) :
    bound? name imports =
      (binding? name imports).or (imports.find? (mentions name)) :=
  rfl

section Binding

variable {name : String} {imports : List Import}

theorem binding?_eq_some_iff_isBinding {imported : Import} :
    binding? name imports = some imported ↔ IsBinding name imports imported := by
  rw [binding?, Option.or_eq_some_iff,
    find?_eq_some_iff_isFirst fun _ => hasAlias_iff,
    find?_eq_none_iff_not fun _ => hasAlias_iff,
    find?_eq_some_iff_isFirst fun _ => hasLastSegment_iff]
  constructor
  · rintro (first | ⟨unaliased, first⟩)
    · exact .alias first
    · exact .segment unaliased first
  · rintro (⟨first⟩ | ⟨unaliased, first⟩)
    · exact .inl first
    · exact .inr ⟨unaliased, first⟩

theorem binding?_eq_none_iff_not_binds :
    binding? name imports = none ↔ ∀ imported ∈ imports, ¬Binds name imported := by
  rw [binding?, Option.or_eq_none_iff,
    find?_eq_none_iff_not fun _ => hasAlias_iff,
    find?_eq_none_iff_not fun _ => hasLastSegment_iff]
  simp only [Binds, not_or, forall_and]

/-! ## Inserted imports -/

/-- Imports that do not bind a name are inserted among others. -/
inductive Inserts (name : String) : List Import → List Import → Prop
  /-- There is no import left. -/
  | nil : Inserts name [] []
  /-- The next import was there before. -/
  | keep (imported : Import) {imports extended : List Import}
      (others : Inserts name imports extended) :
      Inserts name (imported :: imports) (imported :: extended)
  /-- The next import is inserted. -/
  | insert {inserted : Import} {imports extended : List Import}
      (unbound : ¬Binds name inserted)
      (others : Inserts name imports extended) :
      Inserts name imports (inserted :: extended)

/-- What binds the name is found in spite of inserted imports. -/
theorem find?_of_inserts
    {extended : List Import}
    (inserts : Inserts name imports extended)
    {fits : Import → Bool}
    (binds : ∀ imported, fits imported = true → Binds name imported) :
    extended.find? fits = imports.find? fits := by
  induction inserts with
  | nil => rfl
  | keep imported _ inductionHypothesis =>
      rw [List.find?_cons, List.find?_cons, inductionHypothesis]
  | insert unbound _ inductionHypothesis =>
      rw [List.find?_cons_of_neg (mt (binds _) unbound), inductionHypothesis]

theorem binding?_of_inserts
    {extended : List Import}
    (inserts : Inserts name imports extended) :
    binding? name extended = binding? name imports := by
  rw [binding?, binding?,
    find?_of_inserts inserts fun _ fits => .inl (hasAlias_iff.mp fits),
    find?_of_inserts inserts fun _ fits => .inr (hasLastSegment_iff.mp fits)]

end Binding

/-- If some import binds a name, the name refers to the one that it is bound to, and
others that do not bind it may be inserted anywhere. Else it refers to the first one
whose path contains it, if there is one. -/
theorem bound?_prefers_binding (name : String) (imports : List Import) :
    ((∃ imported ∈ imports, Binds name imported) →
      (∃ imported, bound? name imports = some imported) ∧
      (∀ imported, bound? name imports = some imported ↔
        IsBinding name imports imported) ∧
      ∀ extended, Inserts name imports extended →
        bound? name extended = bound? name imports) ∧
    ((∀ imported ∈ imports, ¬Binds name imported) →
      (∀ imported, bound? name imports = some imported ↔
        IsFirst (Contains name) imports imported) ∧
      (bound? name imports = none ↔
        ∀ imported ∈ imports, ¬Contains name imported)) := by
  constructor
  · rintro ⟨binder, present, binds⟩
    cases isBinding : binding? name imports with
    | none => exact absurd binds (binding?_eq_none_iff_not_binds.mp isBinding _ present)
    | some found =>
        have isFound : bound? name imports = some found := by
          rw [bound?_eq_or, isBinding, Option.some_or]
        refine ⟨⟨found, isFound⟩, fun imported => ?_, fun extended inserts => ?_⟩
        · rw [isFound, ← isBinding, binding?_eq_some_iff_isBinding]
        · rw [bound?_eq_or, binding?_of_inserts inserts, isBinding, Option.some_or,
            isFound]
  · intro unbound
    rw [bound?_eq_or, binding?_eq_none_iff_not_binds.mpr unbound, Option.none_or]
    exact ⟨fun _ => find?_eq_some_iff_isFirst fun _ => mentions_iff,
      find?_eq_none_iff_not fun _ => mentions_iff⟩

/-- A path that only contains the name does not stand in the way of the one that it is
bound to. -/
example :
    bound? "db" [⟨"example.com/dbtools", none⟩, ⟨"example.com/db", none⟩] =
      some ⟨"example.com/db", none⟩ := by
  decide +kernel

end Import
end EnvTags
