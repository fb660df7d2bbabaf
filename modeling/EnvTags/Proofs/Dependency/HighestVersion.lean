import EnvTags.Proofs.Dependency.Version
import EnvTags.Proofs.FileSystem.Alike
import EnvTags.Proofs.Path
import Mathlib.Data.List.MinMax

/-!
# Which version is the highest

A directory has a version of a segment if its name is read as the segment, a mark and
the version. Of all versions that directories have, the one with the greatest key is
found: if there is any version at all, one key is greater than all others. Files do
not count, and neither do directories whose names only start like the segment. So it
matters only which versions there are, and not in which order they are listed, unless
several directories have the same one: of these the first one is found.
-/

namespace EnvTags
namespace Dependency

/-! ## Versions in a listing -/

/-- A directory in a listing has a version of a segment, as its name is read. -/
def HasVersion
    (entries : List (Name × Entry))
    (segment version : String) : Prop :=
  ∃ name inner, (name, Entry.directory inner) ∈ entries ∧
    name.read = segment ++ "@" ++ version

/-- A version in a listing has the greatest key of all versions in it. -/
structure IsHighest
    (entries : List (Name × Entry))
    (segment version : String) : Prop where
  hasVersion : HasVersion entries segment version
  greatest : ∀ other, HasVersion entries segment other →
    (VersionKey.ofVersion version).isBelow (.ofVersion other) = false

/-- The versions of a segment in a listing. -/
def versionsOf (segment : String) (entries : List (Name × Entry)) :
    List String :=
  entries.filterMap fun entry =>
    if entry.2.isDirectory then version? segment entry.1 else none

theorem version?_eq_some_iff {segment version : String} {name : Name} :
    version? segment name = some version ↔
      name.read = segment ++ "@" ++ version := by
  rw [version?, Option.map_eq_some_iff]
  simp only [Text.after?_eq_some_iff]
  constructor
  · rintro ⟨rest, isName, rfl⟩
    apply String.toList_injective
    simpa using isName
  · intro isName
    exact ⟨version.toList, by simp [isName], String.ofList_toList⟩

/-- A text with a version determines the version. -/
theorem versioned_inj
    {segment left right : String}
    (same : segment ++ "@" ++ left = segment ++ "@" ++ right) :
    left = right := by
  apply String.toList_injective
  simpa using congrArg String.toList same

/-- A name with a version has a mark in it, so it steps to an entry. -/
theorem stepsToEntry_versioned
    {segment version : String}
    {name : Name}
    (isVersioned : name.read = segment ++ "@" ++ version) :
    Path.StepsToEntry name := by
  have differs : ∀ other : String, '@' ∉ other.toList → name ≠ other := by
    rintro other unmarked rfl
    exact unmarked (by simp [show other = segment ++ "@" ++ version from isVersioned])
  exact Path.stepsToEntry_iff.mpr
    ⟨differs "" (by decide), differs "." (by decide), differs ".." (by decide)⟩

theorem hasVersion_iff_mem_versionsOf
    {entries : List (Name × Entry)}
    {segment version : String} :
    HasVersion entries segment version ↔ version ∈ versionsOf segment entries := by
  rw [versionsOf, List.mem_filterMap]
  constructor
  · rintro ⟨name, inner, present, isVersioned⟩
    exact ⟨_, present, by simpa [Entry.isDirectory, version?_eq_some_iff]⟩
  · rintro ⟨⟨name, file | inner⟩, present, isVersion⟩
    · simp [Entry.isDirectory] at isVersion
    · simp only [Entry.isDirectory, if_true, version?_eq_some_iff] at isVersion
      exact ⟨name, inner, present, isVersion⟩

instance (entries : List (Name × Entry)) (segment version : String) :
    Decidable (HasVersion entries segment version) :=
  decidable_of_iff _ hasVersion_iff_mem_versionsOf.symm

/-- A version is there exactly if a directory is found that has it. -/
theorem hasVersion_iff_firstRead?
    {entries : List (Name × Entry)}
    {segment version : String} :
    HasVersion entries segment version ↔
      ∃ name, Entry.firstRead? (segment ++ "@" ++ version) entries = some name := by
  constructor
  · rintro ⟨name, inner, present, isVersioned⟩
    exact isVersioned ▸ Entry.exists_firstRead? present
  · rintro ⟨name, isFirst⟩
    obtain ⟨inner, present, isVersioned⟩ := Entry.mem_of_firstRead? isFirst
    exact ⟨name, inner, present, isVersioned⟩

theorem versioned?_eq_some_iff
    {segment : String}
    {entry : Name × Entry}
    {found : VersionKey × Name} :
    versioned? segment entry = some found ↔
      ∃ version, entry.2.isDirectory = true ∧
        entry.1.read = segment ++ "@" ++ version ∧
        found = (.ofVersion version, entry.1) := by
  rw [versioned?]
  cases entry.2.isDirectory with
  | false => simp
  | true =>
      rw [if_pos rfl, Option.map_eq_some_iff]
      simp only [version?_eq_some_iff, true_and, @eq_comm _ found]

/-! ## The search -/

/-- The first of the directories with a version whose keys are the greatest. -/
def best? (segment : String) (entries : List (Name × Entry)) :
    Option (VersionKey × Name) :=
  (entries.filterMap (versioned? segment)).argmax fun found => found.1.rank

/-- The search keeps that directory. -/
theorem highestVersion?_eq_best?
    (segment : String)
    (entries : List (Name × Entry)) :
    highestVersion? segment entries =
      (best? segment entries).map Prod.snd := by
  rw [highestVersion?, best?, List.argmax, List.foldl_filterMap]
  refine congrArg (Option.map Prod.snd) (congrArg (List.foldl · none entries) ?_)
  funext best entry
  rw [betterVersion_eq]
  cases versioned? segment entry with
  | none => rfl
  | some other =>
      cases best with
      | none => rfl
      | some found =>
          rcases lt_or_ge found.1.rank other.1.rank with below | above
          · simp [List.argAux, better_of_lt below, below]
          · simp [List.argAux, better_of_le above, above.not_gt]

theorem best?_eq_none_iff
    {segment : String}
    {entries : List (Name × Entry)} :
    best? segment entries = none ↔
      ∀ version, ¬HasVersion entries segment version := by
  rw [best?, List.argmax_eq_none, List.filterMap_eq_nil_iff]
  constructor
  · rintro none version ⟨name, inner, present, isVersioned⟩
    have absent := none _ present
    rw [versioned?_eq_some_iff.mpr ⟨version, rfl, isVersioned, rfl⟩] at absent
    cases absent
  · rintro none ⟨name, entry⟩ present
    rw [Option.eq_none_iff_forall_ne_some]
    intro found isFound
    obtain ⟨version, isDirectory, isVersioned, -⟩ :=
      versioned?_eq_some_iff.mp isFound
    obtain ⟨inner, rfl⟩ := Entry.exists_directory isDirectory
    exact none version ⟨name, inner, present, isVersioned⟩

/-- Two versions are the same if neither key is below the other one. -/
theorem IsHighest.unique
    {entries : List (Name × Entry)}
    {segment left right : String}
    (ofLeft : IsHighest entries segment left)
    (ofRight : IsHighest entries segment right) :
    left = right := by
  have notBelow := ofLeft.greatest right ofRight.hasVersion
  have notAbove := ofRight.greatest left ofLeft.hasVersion
  rw [← Bool.not_eq_true, VersionKey.isBelow_iff, not_lt] at notBelow notAbove
  exact congrArg VersionKey.text
    (VersionKey.rank_injective (notAbove.antisymm notBelow))

/-- Of the elements with the greatest value, the first one is kept. -/
theorem find?_of_argmax
    {α β : Type}
    [LinearOrder β]
    [DecidableEq β]
    {value : α → β}
    {elements : List α}
    {greatest : α}
    (isGreatest : elements.argmax value = some greatest) :
    elements.find? (fun element => value element = value greatest) =
      some greatest := by
  induction elements with
  | nil => simp at isGreatest
  | cons first others inductionHypothesis =>
      rw [List.argmax_cons] at isGreatest
      cases isLater : others.argmax value with
      | none =>
          simp only [isLater, Option.some.injEq] at isGreatest
          simp [isGreatest]
      | some later =>
          simp only [isLater] at isGreatest
          split at isGreatest
          · rename_i above
            obtain rfl := Option.some.inj isGreatest
            simpa [List.find?_cons, above.ne] using inductionHypothesis isLater
          · simp [Option.some.inj isGreatest]

/-- Among the directories with a version, the first one with the key of a version is
the first one that has the version. -/
theorem find?_filterMap_versioned?
    (segment version : String)
    (entries : List (Name × Entry)) :
    ((entries.filterMap (versioned? segment)).find? fun found =>
        found.1.rank = (VersionKey.ofVersion version).rank).map Prod.snd =
      Entry.firstRead? (segment ++ "@" ++ version) entries := by
  induction entries with
  | nil => rfl
  | cons entry entries inductionHypothesis =>
      rw [Entry.firstRead?] at inductionHypothesis ⊢
      by_cases isThere : entry.2.isDirectory = true ∧
          entry.1.read = segment ++ "@" ++ version
      · have isFound : versioned? segment entry =
            some (.ofVersion version, entry.1) :=
          versioned?_eq_some_iff.mpr ⟨version, isThere.1, isThere.2, rfl⟩
        rw [List.filterMap_cons_some isFound, List.find?_cons_of_pos (by simp),
          List.find?_cons_of_pos (by simp [isThere])]
        rfl
      · rw [List.find?_cons_of_neg (by simpa using isThere)]
        cases isFound : versioned? segment entry with
        | none => rw [List.filterMap_cons_none isFound, inductionHypothesis]
        | some found =>
            obtain ⟨other, isDirectory, isOther, rfl⟩ :=
              versioned?_eq_some_iff.mp isFound
            have different : (VersionKey.ofVersion other).rank ≠
                (VersionKey.ofVersion version).rank := by
              intro sameRank
              obtain rfl : other = version :=
                congrArg VersionKey.text (VersionKey.rank_injective sameRank)
              exact isThere ⟨isDirectory, isOther⟩
            rw [List.filterMap_cons_some isFound,
              List.find?_cons_of_neg (by simpa using different),
              inductionHypothesis]

/-- The search keeps the first directory with the highest version. -/
theorem isHighest_of_best?
    {segment : String}
    {entries : List (Name × Entry)}
    {found : VersionKey × Name}
    (isBest : best? segment entries = some found) :
    ∃ version, IsHighest entries segment version ∧
      Entry.firstRead? (segment ++ "@" ++ version) entries = some found.2 := by
  obtain ⟨⟨name, entry⟩, present, isFound⟩ :=
    List.mem_filterMap.mp (List.argmax_mem isBest)
  obtain ⟨version, isDirectory, isVersioned, rfl⟩ :=
    versioned?_eq_some_iff.mp isFound
  obtain ⟨inner, rfl⟩ := Entry.exists_directory isDirectory
  refine ⟨version, ⟨⟨name, inner, present, isVersioned⟩, ?_⟩, ?_⟩
  · rintro other ⟨otherName, otherInner, alsoPresent, isOther⟩
    rw [← Bool.not_eq_true, VersionKey.isBelow_iff, not_lt]
    have alsoFound : versioned? segment (otherName, .directory otherInner) =
        some (.ofVersion other, otherName) :=
      versioned?_eq_some_iff.mpr ⟨other, rfl, isOther, rfl⟩
    exact List.le_of_mem_argmax (f := fun found => found.1.rank)
      (List.mem_filterMap.mpr ⟨_, alsoPresent, alsoFound⟩) isBest
  · rw [← find?_filterMap_versioned?]
    exact congrArg (Option.map Prod.snd) (find?_of_argmax isBest)

/-- The directory that is found is the first one with the highest version. -/
theorem highestVersion?_eq_some_iff
    {segment : String}
    {entries : List (Name × Entry)}
    {name : Name} :
    highestVersion? segment entries = some name ↔
      ∃ version, IsHighest entries segment version ∧
        Entry.firstRead? (segment ++ "@" ++ version) entries = some name := by
  rw [highestVersion?_eq_best?, Option.map_eq_some_iff]
  constructor
  · rintro ⟨found, isBest, rfl⟩
    exact isHighest_of_best? isBest
  · rintro ⟨version, highest, isFirst⟩
    cases isBest : best? segment entries with
    | none => exact absurd highest.hasVersion (best?_eq_none_iff.mp isBest version)
    | some found =>
        obtain ⟨other, alsoHighest, alsoFirst⟩ := isHighest_of_best? isBest
        obtain rfl := highest.unique alsoHighest
        exact ⟨_, rfl, Option.some.inj (alsoFirst.symm.trans isFirst)⟩

/-- None is found exactly if no directory has a version. -/
theorem highestVersion?_eq_none_iff
    {segment : String}
    {entries : List (Name × Entry)} :
    highestVersion? segment entries = none ↔
      ∀ version, ¬HasVersion entries segment version := by
  rw [highestVersion?_eq_best?, Option.map_eq_none_iff, best?_eq_none_iff]

/-- If there is a version, one of them is the highest. -/
theorem existsUnique_isHighest
    {segment version : String}
    {entries : List (Name × Entry)}
    (present : HasVersion entries segment version) :
    ∃! highest, IsHighest entries segment highest := by
  cases isFound : highestVersion? segment entries with
  | none => exact absurd present (highestVersion?_eq_none_iff.mp isFound version)
  | some name =>
      obtain ⟨highest, isHighest, -⟩ := highestVersion?_eq_some_iff.mp isFound
      exact ⟨highest, isHighest, fun _ alsoHighest => alsoHighest.unique isHighest⟩

/-! ## Listings with the same versions -/

theorem IsHighest.of_same
    {left right : List (Name × Entry)}
    {segment version : String}
    (same : ∀ other, HasVersion left segment other ↔ HasVersion right segment other)
    (highest : IsHighest left segment version) :
    IsHighest right segment version :=
  ⟨(same version).mp highest.hasVersion,
    fun other isOther => highest.greatest other ((same other).mpr isOther)⟩

/-- Where the same directory comes first for every version, the same one is
found. -/
theorem highestVersion?_congr
    {left right : List (Name × Entry)}
    {segment : String}
    (same : ∀ text, Entry.firstRead? text left = Entry.firstRead? text right) :
    highestVersion? segment left = highestVersion? segment right := by
  have sameVersions : ∀ version,
      HasVersion left segment version ↔ HasVersion right segment version := by
    intro version
    rw [hasVersion_iff_firstRead?, hasVersion_iff_firstRead?, same]
  ext name
  rw [highestVersion?_eq_some_iff, highestVersion?_eq_some_iff]
  constructor
  · rintro ⟨version, highest, isFirst⟩
    exact ⟨version, highest.of_same sameVersions, same _ ▸ isFirst⟩
  · rintro ⟨version, highest, isFirst⟩
    exact ⟨version, highest.of_same fun other => (sameVersions other).symm,
      (same _).symm ▸ isFirst⟩

/-! ## Directories -/

section Read

variable
  {system : FileSystem}
  {directory : Path}
  {entries : List (Name × Entry)}
  (read : system.readDirectory directory = .ok entries)
include read

theorem versionedDirectory_eq (segment : String) :
    versionedDirectory system directory segment =
      .ok ((highestVersion? segment entries).map directory.child) := by
  rw [versionedDirectory, read]

/-- In a directory that can be read, the first directory with the highest version is
found. -/
theorem versionedDirectory_eq_some_iff
    {segment : String}
    {path : Path} :
    versionedDirectory system directory segment = .ok (some path) ↔
      ∃ version name, IsHighest entries segment version ∧
        Entry.firstRead? (segment ++ "@" ++ version) entries = some name ∧
        path = directory.child name := by
  rw [versionedDirectory_eq read, Except.ok.injEq, Option.map_eq_some_iff]
  simp only [highestVersion?_eq_some_iff]
  constructor
  · rintro ⟨name, ⟨version, highest, isFirst⟩, rfl⟩
    exact ⟨version, name, highest, isFirst, rfl⟩
  · rintro ⟨version, name, highest, isFirst, rfl⟩
    exact ⟨name, ⟨version, highest, isFirst⟩, rfl⟩

end Read

end Dependency
end EnvTags
