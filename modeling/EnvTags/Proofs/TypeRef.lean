import EnvTags.Proofs.Text.Trim
import EnvTags.TypeRef
import Mathlib.Data.List.Basic

/-!
# Classes of types

The text of a type names a builtin type, or a type of the same package or of an
imported one, as such or through one pointer. Any other text is kept as it is. The
main statement says exactly which texts are in each class, so a name that is read is
never the one of a builtin type.
-/

namespace EnvTags

namespace Text

/-- Sets whose ranges lie apart have no character in common. -/
theorem Ranges.contains_eq_false_of_apart
    {left right : Ranges}
    (apart : ∀ range ∈ left, ∀ other ∈ right,
      range.2 < other.1 ∨ other.2 < range.1)
    {c : Char}
    (inside : left.contains c = true) :
    right.contains c = false := by
  rw [← Bool.not_eq_true, contains_iff]
  rintro ⟨other, isOther, otherLow, otherHigh⟩
  obtain ⟨range, isRange, low, high⟩ := (contains_iff left c).mp inside
  rcases apart range isRange other isOther with below | above
  · omega
  · omega

/-- No letter is blank. -/
theorem isLetter_eq_false_of_isBlank
    {c : Char}
    (blank : isBlank c = true) :
    isLetter c = false := by
  unfold isLetter isAscii
  split
  · rename_i small
    have all : ∀ code < 128, isBlank (Char.ofNat code) = true →
        (Char.ofNat code).isAlpha = false := by
      decide
    have notLetter := all c.toNat (of_decide_eq_true small)
    rw [Char.ofNat_toNat] at notLetter
    exact notLetter blank
  · have apart : ∀ range ∈ blanks, ∀ other ∈ letters,
        range.2 < other.1 ∨ other.2 < range.1 := by
      decide +kernel
    exact Ranges.contains_eq_false_of_apart apart blank

end Text

/-! ## Names of builtin types -/

namespace Builtin

/-- A text is the name of a builtin type. -/
def IsName (text : List Char) : Prop :=
  ∃ type : Builtin, text = type.name.toList

theorem ofName?_eq_some_iff {text : List Char} {type : Builtin} :
    ofName? text = some type ↔ text = type.name.toList := by
  constructor
  · intro found
    unfold ofName? at found
    have named := List.find?_some found
    exact (beq_iff_eq.mp named).symm
  · rintro rfl
    cases type <;> rfl

theorem isSome_ofName?_iff {text : List Char} :
    (ofName? text).isSome = true ↔ IsName text := by
  simp only [Option.isSome_iff_exists, ofName?_eq_some_iff, IsName]

theorem ofName?_eq_none_iff {text : List Char} :
    ofName? text = none ↔ ¬IsName text := by
  rw [← isSome_ofName?_iff, Bool.not_eq_true, Option.isSome_eq_false_iff,
    Option.isNone_iff_eq_none]

/-- The name of a builtin type has no star, no bracket and no blank, and at most one
dot. -/
theorem plain_name (type : Builtin) :
    type.name.toList ≠ [] ∧ type.name.toList.count '.' ≤ 1 ∧
      ∀ c ∈ type.name.toList, c ≠ '*' ∧ c ≠ '[' ∧ Text.isBlank c = false := by
  have all : ∀ type ∈ Builtin.all,
      type.name.toList ≠ [] ∧ type.name.toList.count '.' ≤ 1 ∧
        type.name.toList.Forall fun c =>
          c ≠ '*' ∧ c ≠ '[' ∧ Text.isBlank c = false := by
    decide +kernel
  obtain ⟨nonempty, fewDots, plain⟩ := all type (mem_all type)
  exact ⟨nonempty, fewDots, List.forall_iff_forall_mem.mp plain⟩

end Builtin

namespace TypeRef

/-! ## Identifiers -/

/-- A mark cannot stand in an identifier. -/
theorem notMem_of_isIdentifier
    {mark : Char}
    (isMark : (mark == '_' || Text.isLetter mark || Text.isNumeral mark) = false)
    {name : List Char}
    (identifier : isIdentifier name = true) :
    mark ∉ name := by
  cases name with
  | nil => exact List.not_mem_nil
  | cons first rest =>
      obtain ⟨start, others⟩ := Bool.and_eq_true_iff.mp identifier
      intro inside
      rcases List.mem_cons.mp inside with rfl | later
      · simp [start] at isMark
      · rw [List.all_eq_true.mp others mark later] at isMark
        cases isMark

theorem count_eq_zero_of_isIdentifier
    {mark : Char}
    (isMark : (mark == '_' || Text.isLetter mark || Text.isNumeral mark) = false)
    {name : List Char}
    (identifier : isIdentifier name = true) :
    name.count mark = 0 :=
  List.count_eq_zero.mpr (notMem_of_isIdentifier isMark identifier)

/-- A text is not empty and starts with neither a blank nor a star. -/
def StartsPlain (text : List Char) : Prop :=
  ∃ first rest, text = first :: rest ∧ Text.isBlank first = false ∧ first ≠ '*'

theorem StartsPlain.append
    {text : List Char}
    (starts : StartsPlain text)
    (rest : List Char) :
    StartsPlain (text ++ rest) := by
  obtain ⟨first, others, rfl, notBlank, notStar⟩ := starts
  exact ⟨first, others ++ rest, rfl, notBlank, notStar⟩

theorem startsPlain_of_isIdentifier
    {name : List Char}
    (identifier : isIdentifier name = true) :
    StartsPlain name := by
  cases name with
  | nil => cases identifier
  | cons first rest =>
      have start := (Bool.and_eq_true_iff.mp identifier).1
      refine ⟨first, rest, rfl, ?_, ?_⟩
      · by_contra blank
        rw [Bool.not_eq_false] at blank
        rw [Text.isLetter_eq_false_of_isBlank blank, Bool.or_false, beq_iff_eq] at start
        subst start
        exact absurd blank (by decide)
      · rintro rfl
        exact absurd start (by decide)

theorem startsPlain_name (type : Builtin) : StartsPlain type.name.toList := by
  obtain ⟨nonempty, -, plain⟩ := type.plain_name
  obtain ⟨first, rest, isCons⟩ := List.exists_cons_of_ne_nil nonempty
  obtain ⟨notStar, -, notBlank⟩ := plain first (by simp [isCons])
  exact ⟨first, rest, isCons, notBlank, notStar⟩

/-! ## References -/

/-- A text is another one, or a star and blanks stand before that. -/
def RefersTo (text target : List Char) : Prop :=
  text = target ∨
    ∃ gap, (∀ c ∈ gap, Text.isBlank c = true) ∧ text = '*' :: (gap ++ target)

/-- What a text refers to is its target without the pointer. -/
theorem pointee_eq_iff_refersTo
    {text target : List Char}
    (starts : StartsPlain target) :
    pointee text = target ↔ RefersTo text target := by
  obtain ⟨first, rest, rfl, notBlank, notStar⟩ := starts
  constructor
  · intro isTarget
    unfold pointee at isTarget
    split at isTarget
    · rename_i target
      obtain ⟨gap, gapBlank, split⟩ := Text.exists_gap_trimStart target
      exact .inr ⟨gap, gapBlank, by rw [← isTarget, ← split]⟩
    · exact .inl isTarget
  · rintro (rfl | ⟨gap, gapBlank, rfl⟩)
    · unfold pointee
      split
      · rename_i isStar
        exact absurd (List.cons.inj isStar).1 notStar
      · rfl
    · rw [pointee, Text.trimStart_of_blank gapBlank,
        Text.trimStart_of_notBlank (by simp [notBlank])]

/-- A pointer adds nothing but a star and blanks. -/
theorem RefersTo.count_eq
    {text target : List Char}
    (refers : RefersTo text target)
    {c : Char}
    (notBlank : Text.isBlank c = false)
    (notStar : c ≠ '*') :
    text.count c = target.count c := by
  rcases refers with rfl | ⟨gap, gapBlank, rfl⟩
  · rfl
  · have notInGap : c ∉ gap := fun inside => by
      rw [gapBlank c inside] at notBlank
      cases notBlank
    rw [List.count_cons_of_ne (Ne.symm notStar), List.count_append,
      List.count_eq_zero.mpr notInGap, Nat.zero_add]

/-- A text refers to a type of the same package, which is not a builtin type. -/
structure NamesUnqualified (text : List Char) (name : String) : Prop where
  identifier : isIdentifier name.toList = true
  notBuiltin : ¬Builtin.IsName name.toList
  refers : RefersTo text name.toList

/-- A text refers to a type of an imported package, which is not a builtin type. -/
structure NamesQualified (text : List Char) (package name : String) : Prop where
  packageIdentifier : isIdentifier package.toList = true
  identifier : isIdentifier name.toList = true
  notBuiltin : ¬Builtin.IsName (package ++ "." ++ name).toList
  refers : RefersTo text (package ++ "." ++ name).toList

theorem toList_qualified (package name : String) :
    (package ++ "." ++ name).toList = package.toList ++ '.' :: name.toList := by
  simp

/-! ## Classes of targets -/

section Target

variable {whole target : List Char}

theorem ofTarget_eq_unqualified_iff {name : String} :
    ofTarget whole target = .unqualified name ↔
      isIdentifier name.toList = true ∧ target = name.toList := by
  unfold ofTarget
  constructor
  · intro isClass
    split at isClass
    · split at isClass
      · rename_i identifier
        obtain rfl := TypeRef.unqualified.inj isClass
        simpa using identifier
      · cases isClass
    · split at isClass <;> cases isClass
  · rintro ⟨identifier, rfl⟩
    have whole : Text.cut '.' name.toList = none := by
      rw [Option.eq_none_iff_forall_ne_some]
      rintro ⟨before, after⟩ isCut
      have noDot : '.' ∉ name.toList := notMem_of_isIdentifier (by decide) identifier
      apply noDot
      simp [(Text.cut_eq_some_iff.mp isCut).1]
    simp [whole, identifier]

theorem ofTarget_eq_qualified_iff {package name : String} :
    ofTarget whole target = .qualified package name ↔
      isIdentifier package.toList = true ∧ isIdentifier name.toList = true ∧
        target = (package ++ "." ++ name).toList := by
  rw [toList_qualified]
  unfold ofTarget
  constructor
  · intro isClass
    split at isClass
    · split at isClass <;> cases isClass
    · rename_i before after isCut
      split at isClass
      · rename_i identifiers
        obtain ⟨rfl, rfl⟩ := TypeRef.qualified.inj isClass
        obtain ⟨packageIdentifier, identifier⟩ := Bool.and_eq_true_iff.mp identifiers
        simpa [packageIdentifier, identifier] using (Text.cut_eq_some_iff.mp isCut).1
      · cases isClass
  · rintro ⟨packageIdentifier, identifier, rfl⟩
    have isCut : Text.cut '.' (package.toList ++ '.' :: name.toList) =
        some (package.toList, name.toList) :=
      Text.cut_eq_some_iff.mpr
        ⟨rfl, notMem_of_isIdentifier (by decide) packageIdentifier⟩
    simp [isCut, packageIdentifier, identifier]

theorem ofTarget_ne_builtin {type : Builtin} :
    ofTarget whole target ≠ .builtin type := by
  unfold ofTarget
  split <;> split <;> simp

/-- A text that is kept is the whole one. -/
theorem text_of_ofTarget_eq_composite
    {text : String}
    (isClass : ofTarget whole target = .composite text) :
    text = String.ofList whole := by
  unfold ofTarget at isClass
  split at isClass <;> split at isClass
  · cases isClass
  · exact (TypeRef.composite.inj isClass).symm
  · cases isClass
  · exact (TypeRef.composite.inj isClass).symm

end Target

/-! ## Classes of trimmed texts -/

section Trimmed

variable {text : List Char}

/-- A builtin type is no pointer. -/
theorem pointee_name (type : Builtin) :
    pointee type.name.toList = type.name.toList :=
  (pointee_eq_iff_refersTo (startsPlain_name type)).mpr (.inl rfl)

/-- A text that is not the name of a builtin type, nor a pointer to one, has the
class of its target. -/
theorem ofTrimmed_of_not_isName (notBuiltin : ¬Builtin.IsName (pointee text)) :
    ofTrimmed text = ofTarget text (pointee text) := by
  have notName : ¬Builtin.IsName text := by
    rintro ⟨type, rfl⟩
    exact notBuiltin ⟨type, pointee_name type⟩
  rw [ofTrimmed, Builtin.ofName?_eq_none_iff.mpr notName,
    Builtin.ofName?_eq_none_iff.mpr notBuiltin]
  rfl

theorem ofTrimmed_name (type : Builtin) :
    ofTrimmed type.name.toList = .builtin type := by
  rw [ofTrimmed, Builtin.ofName?_eq_some_iff.mpr rfl]

/-- A pointer to a builtin type is kept. -/
theorem ofTrimmed_of_isName_pointee
    (notName : ¬Builtin.IsName text)
    (isName : Builtin.IsName (pointee text)) :
    ofTrimmed text = .composite (String.ofList text) := by
  rw [ofTrimmed, Builtin.ofName?_eq_none_iff.mpr notName,
    if_pos (Builtin.isSome_ofName?_iff.mpr isName)]

/-- A text is the name of a builtin type, or a pointer to one, or anything else. -/
theorem ofTrimmed_cases (text : List Char) :
    (∃ type : Builtin, text = type.name.toList ∧ ofTrimmed text = .builtin type) ∨
    (¬Builtin.IsName text ∧ Builtin.IsName (pointee text) ∧
      ofTrimmed text = .composite (String.ofList text)) ∨
    (¬Builtin.IsName text ∧ ¬Builtin.IsName (pointee text) ∧
      ofTrimmed text = ofTarget text (pointee text)) := by
  by_cases isName : Builtin.IsName text
  · obtain ⟨type, rfl⟩ := isName
    exact .inl ⟨type, rfl, ofTrimmed_name type⟩
  · by_cases pointsToName : Builtin.IsName (pointee text)
    · exact .inr (.inl ⟨isName, pointsToName,
        ofTrimmed_of_isName_pointee isName pointsToName⟩)
    · exact .inr (.inr ⟨isName, pointsToName, ofTrimmed_of_not_isName pointsToName⟩)

theorem ofTrimmed_eq_builtin_iff {type : Builtin} :
    ofTrimmed text = .builtin type ↔ text = type.name.toList := by
  constructor
  · intro isClass
    rcases ofTrimmed_cases text with
      ⟨other, isName, isOther⟩ | ⟨-, -, isOther⟩ | ⟨-, -, isOther⟩
    · rw [isOther] at isClass
      rw [isName, TypeRef.builtin.inj isClass]
    · rw [isOther] at isClass
      cases isClass
    · exact absurd (isOther.symm.trans isClass) ofTarget_ne_builtin
  · rintro rfl
    exact ofTrimmed_name type

theorem ofTrimmed_eq_unqualified_iff {name : String} :
    ofTrimmed text = .unqualified name ↔ NamesUnqualified text name := by
  constructor
  · intro isClass
    rcases ofTrimmed_cases text with
      ⟨type, -, isOther⟩ | ⟨-, -, isOther⟩ | ⟨-, notBuiltin, isOther⟩
    · rw [isOther] at isClass
      cases isClass
    · rw [isOther] at isClass
      cases isClass
    · obtain ⟨identifier, isTarget⟩ :=
        ofTarget_eq_unqualified_iff.mp (isOther.symm.trans isClass)
      exact ⟨identifier, isTarget ▸ notBuiltin,
        (pointee_eq_iff_refersTo (startsPlain_of_isIdentifier identifier)).mp isTarget⟩
  · rintro ⟨identifier, notBuiltin, refers⟩
    have isTarget := (pointee_eq_iff_refersTo
      (startsPlain_of_isIdentifier identifier)).mpr refers
    rw [ofTrimmed_of_not_isName (isTarget ▸ notBuiltin)]
    exact ofTarget_eq_unqualified_iff.mpr ⟨identifier, isTarget⟩

theorem startsPlain_qualified
    {package : String}
    (identifier : isIdentifier package.toList = true)
    (name : String) :
    StartsPlain (package ++ "." ++ name).toList := by
  rw [toList_qualified]
  exact (startsPlain_of_isIdentifier identifier).append _

theorem ofTrimmed_eq_qualified_iff {package name : String} :
    ofTrimmed text = .qualified package name ↔ NamesQualified text package name := by
  constructor
  · intro isClass
    rcases ofTrimmed_cases text with
      ⟨type, -, isOther⟩ | ⟨-, -, isOther⟩ | ⟨-, notBuiltin, isOther⟩
    · rw [isOther] at isClass
      cases isClass
    · rw [isOther] at isClass
      cases isClass
    · obtain ⟨packageIdentifier, identifier, isTarget⟩ :=
        ofTarget_eq_qualified_iff.mp (isOther.symm.trans isClass)
      exact ⟨packageIdentifier, identifier, isTarget ▸ notBuiltin,
        (pointee_eq_iff_refersTo
          (startsPlain_qualified packageIdentifier name)).mp isTarget⟩
  · rintro ⟨packageIdentifier, identifier, notBuiltin, refers⟩
    have isTarget := (pointee_eq_iff_refersTo
      (startsPlain_qualified packageIdentifier name)).mpr refers
    rw [ofTrimmed_of_not_isName (isTarget ▸ notBuiltin)]
    exact ofTarget_eq_qualified_iff.mpr ⟨packageIdentifier, identifier, isTarget⟩

/-- A text names nothing: no builtin type, no type of the same package and none of an
imported one. -/
structure NamesNothing (text : List Char) : Prop where
  notBuiltin : ¬Builtin.IsName text
  notUnqualified : ∀ name, ¬NamesUnqualified text name
  notQualified : ∀ package name, ¬NamesQualified text package name

/-- A text that names nothing is kept. -/
theorem ofTrimmed_eq_composite_iff {kept : String} :
    ofTrimmed text = .composite kept ↔
      kept = String.ofList text ∧ NamesNothing text := by
  constructor
  · intro isClass
    refine ⟨?_, ?_, ?_, ?_⟩
    · rcases ofTrimmed_cases text with
        ⟨type, -, isOther⟩ | ⟨-, -, isOther⟩ | ⟨-, -, isOther⟩
      · rw [isOther] at isClass
        cases isClass
      · exact (TypeRef.composite.inj (isOther.symm.trans isClass)).symm
      · exact text_of_ofTarget_eq_composite (isOther.symm.trans isClass)
    · rintro ⟨type, isName⟩
      rw [ofTrimmed_eq_builtin_iff.mpr isName] at isClass
      cases isClass
    · intro name names
      rw [ofTrimmed_eq_unqualified_iff.mpr names] at isClass
      cases isClass
    · intro package name names
      rw [ofTrimmed_eq_qualified_iff.mpr names] at isClass
      cases isClass
  · rintro ⟨rfl, notBuiltin, notUnqualified, notQualified⟩
    cases isClass : ofTrimmed text with
    | builtin type =>
        exact absurd ⟨type, ofTrimmed_eq_builtin_iff.mp isClass⟩ notBuiltin
    | unqualified name =>
        exact absurd (ofTrimmed_eq_unqualified_iff.mp isClass) (notUnqualified name)
    | qualified package name =>
        exact absurd (ofTrimmed_eq_qualified_iff.mp isClass)
          (notQualified package name)
    | composite kept =>
        rcases ofTrimmed_cases text with
          ⟨type, isName, -⟩ | ⟨-, -, isOther⟩ | ⟨-, -, isOther⟩
        · exact absurd ⟨type, isName⟩ notBuiltin
        · exact isClass.symm.trans isOther
        · rw [text_of_ofTarget_eq_composite (isOther.symm.trans isClass)]

end Trimmed

/-! ## Types that are kept -/

/-- Types that name nothing: an empty text, a pointer to a builtin type or to a
pointer, a type with brackets as slices, maps and generic types have them, and a name
with several dots. -/
inductive IsCompound : List Char → Prop
  /-- There is no type. -/
  | empty : IsCompound []
  /-- A pointer to a builtin type. -/
  | pointerToBuiltin
      {gap : List Char}
      (gapBlank : ∀ c ∈ gap, Text.isBlank c = true)
      (type : Builtin) :
      IsCompound ('*' :: (gap ++ type.name.toList))
  /-- A pointer to a pointer. -/
  | doublePointer
      {gap : List Char}
      (gapBlank : ∀ c ∈ gap, Text.isBlank c = true)
      (rest : List Char) :
      IsCompound ('*' :: (gap ++ '*' :: rest))
  /-- A type with a bracket. -/
  | bracketed
      {text : List Char}
      (bracket : '[' ∈ text) :
      IsCompound text
  /-- A name with more than one dot. -/
  | severalDots
      {text : List Char}
      (dots : 1 < text.count '.') :
      IsCompound text

/-- Whatever a text names starts plainly. It is not the name of a builtin type, and it
has no bracket and at most one dot. -/
theorem refersTo_plain_of_names
    {text : List Char}
    (names : (∃ name, NamesUnqualified text name) ∨
      ∃ package name, NamesQualified text package name) :
    ∃ target, RefersTo text target ∧ StartsPlain target ∧ ¬Builtin.IsName target ∧
      target.count '[' = 0 ∧ target.count '.' ≤ 1 := by
  rcases names with ⟨name, names⟩ | ⟨package, name, names⟩
  · have noDot : name.toList.count '.' = 0 :=
      count_eq_zero_of_isIdentifier (by decide) names.identifier
    exact ⟨_, names.refers, startsPlain_of_isIdentifier names.identifier,
      names.notBuiltin, count_eq_zero_of_isIdentifier (by decide) names.identifier,
      noDot ▸ Nat.zero_le 1⟩
  · refine ⟨_, names.refers, startsPlain_qualified names.packageIdentifier name,
      names.notBuiltin, ?_, ?_⟩
    · rw [toList_qualified, List.count_append, List.count_cons_of_ne (by decide),
        count_eq_zero_of_isIdentifier (by decide) names.packageIdentifier,
        count_eq_zero_of_isIdentifier (by decide) names.identifier]
    · rw [toList_qualified, List.count_append, List.count_cons_self,
        count_eq_zero_of_isIdentifier (by decide) names.packageIdentifier,
        count_eq_zero_of_isIdentifier (by decide) names.identifier]

theorem namesNothing_of_no_target
    {text : List Char}
    (notBuiltin : ¬Builtin.IsName text)
    (noTarget : ∀ target, RefersTo text target → StartsPlain target →
      ¬Builtin.IsName target → target.count '[' = 0 → ¬target.count '.' ≤ 1) :
    NamesNothing text := by
  have namesNone : ¬((∃ name, NamesUnqualified text name) ∨
      ∃ package name, NamesQualified text package name) := by
    intro names
    obtain ⟨target, refers, starts, notName, noBracket, fewDots⟩ :=
      refersTo_plain_of_names names
    exact noTarget target refers starts notName noBracket fewDots
  exact ⟨notBuiltin, fun name names => namesNone (.inl ⟨name, names⟩),
    fun package name names => namesNone (.inr ⟨package, name, names⟩)⟩

/-- No name of a builtin type starts with a star. -/
theorem not_isName_star (rest : List Char) : ¬Builtin.IsName ('*' :: rest) := by
  rintro ⟨type, isName⟩
  obtain ⟨-, -, plain⟩ := type.plain_name
  exact (plain '*' (by simp [← isName])).1 rfl

theorem IsCompound.namesNothing
    {text : List Char}
    (compound : IsCompound text) :
    NamesNothing text := by
  cases compound with
  | empty =>
      apply namesNothing_of_no_target
      · rintro ⟨type, isName⟩
        exact type.plain_name.1 isName.symm
      · rintro target (rfl | ⟨gap, -, isPointer⟩) ⟨first, rest, isCons, -⟩
        · cases isCons
        · cases isPointer
  | pointerToBuiltin gapBlank type =>
      apply namesNothing_of_no_target (not_isName_star _)
      intro target refers starts notName
      have toName := (pointee_eq_iff_refersTo (startsPlain_name type)).mpr
        (.inr ⟨_, gapBlank, rfl⟩)
      rw [(pointee_eq_iff_refersTo starts).mpr refers] at toName
      exact absurd ⟨type, toName⟩ notName
  | doublePointer gapBlank rest =>
      apply namesNothing_of_no_target (not_isName_star _)
      intro target refers starts
      have toStar := (pointee_eq_iff_refersTo starts).mpr refers
      rw [pointee, Text.trimStart_of_blank gapBlank,
        Text.trimStart_of_notBlank (by simp; decide)] at toStar
      obtain ⟨first, others, rfl, -, notStar⟩ := starts
      exact absurd (List.cons.inj toStar).1.symm notStar
  | bracketed bracket =>
      apply namesNothing_of_no_target
      · rintro ⟨type, rfl⟩
        exact (type.plain_name.2.2 '[' bracket).2.1 rfl
      · intro target refers _ _ noBracket
        rw [← refers.count_eq (by decide) (by decide)] at noBracket
        exact absurd bracket (List.count_eq_zero.mp noBracket)
  | severalDots dots =>
      apply namesNothing_of_no_target
      · rintro ⟨type, rfl⟩
        exact absurd type.plain_name.2.1 (Nat.not_le.mpr dots)
      · intro target refers _ _ _
        rw [← refers.count_eq (by decide) (by decide)]
        exact Nat.not_le.mpr dots

/-- A text without the blanks at its ends is of one class. It is a builtin type if it
is the name of one; a type of the same package if it is an identifier, or a pointer to
one, that names no builtin type; a type of an imported package if two identifiers with
a dot between them are there instead; and else it is kept. In particular pointers to
builtin types or to pointers, types with brackets, names with several dots and the
empty text are kept. -/
theorem parse_accepts_grammar (text : String) :
    ∃ core, Text.TrimsTo text.toList core ∧
      (∀ type, parse text = .builtin type ↔ core = type.name.toList) ∧
      (∀ name, parse text = .unqualified name ↔ NamesUnqualified core name) ∧
      (∀ package name, parse text = .qualified package name ↔
        NamesQualified core package name) ∧
      (∀ kept, parse text = .composite kept ↔
        kept = String.ofList core ∧ NamesNothing core) ∧
      (IsCompound core → parse text = .composite (String.ofList core)) :=
  ⟨Text.trim text.toList, Text.trim_eq_iff_trimsTo.mp rfl,
    fun _ => ofTrimmed_eq_builtin_iff, fun _ => ofTrimmed_eq_unqualified_iff,
    fun _ _ => ofTrimmed_eq_qualified_iff, fun _ => ofTrimmed_eq_composite_iff,
    fun compound => ofTrimmed_eq_composite_iff.mpr ⟨rfl, compound.namesNothing⟩⟩

/-- A pointer to a type of an imported package is read as that type, but not if it is
the builtin type of durations. -/
example :
    parse " * config.Server\t" = .qualified "config" "Server" ∧
      parse "*time.Duration" = .composite "*time.Duration" := by
  decide +kernel

end TypeRef
end EnvTags
