import EnvTags.Proofs.Dependency.HighestVersion

/-!
# Releases and their pre-releases

A release is named by three numbers. Of releases whose numbers are below the cap
the one that is found has the greatest triple, number by number. Before a release
come its pre-releases, whose names go on behind a hyphen. They ought to stand below
the release, but the numbers and the text of a pre-release are those of the release
with more behind them, so that its key is the greater one. The main statements say
which version is found, and that a release is found among its pre-releases only if
there is none.
-/

namespace EnvTags
namespace Dependency

/-! ## The numbers in a text -/

/-- A character that is no digit ends a number. -/
theorem numbersIn_append_cons
    (left right : List Char)
    {c : Char}
    (notDigit : c.isDigit = false) :
    numbersIn (left ++ c :: right) = numbersIn left ++ numbersIn right := by
  rw [numbersIn, List.splitOnP_append_cons _ _ (by simp [notDigit]),
    List.filter_append, List.map_append]
  rfl

/-- Digits without other characters between them write one number. -/
theorem numbersIn_eq_singleton
    {digits : List Char}
    (nonempty : digits ≠ [])
    (areDigits : ∀ c ∈ digits, c.isDigit = true) :
    numbersIn digits = [numberOf digits] := by
  rw [numbersIn, List.splitOnP_eq_singleton (by simpa using areDigits)]
  simp [nonempty]

/-- A number is read back from its digits, up to the cap. -/
theorem numberOf_toDigits (number : Nat) :
    numberOf (Nat.toDigits 10 number) = min greatestNumber number := by
  have value := Nat.ofDigitChars_ten_toDigits (n := number)
  rw [Nat.ofDigitChars_eq_foldl] at value
  simp only [Nat.mul_comm 10] at value
  rw [numberOf, value]

theorem numbersIn_toString (number : Nat) :
    numbersIn (toString number).toList = [min greatestNumber number] := by
  rw [Nat.toString_eq_ofList_toDigits, String.toList_ofList,
    numbersIn_eq_singleton Nat.toDigits_ne_nil
      fun _ => Nat.isDigit_of_mem_toDigits (by decide) (by decide),
    numberOf_toDigits]

/-! ## Releases -/

/-- The three numbers of a release. -/
structure Release where
  /-- The first number. -/
  major : Nat
  /-- The number for the same first one. -/
  minor : Nat
  /-- The number for the same first two. -/
  patch : Nat
  deriving DecidableEq

namespace Release

/-- A release as it is written. -/
def text (release : Release) : String :=
  "v" ++ toString release.major ++ "." ++ toString release.minor ++ "." ++
    toString release.patch

/-- A pre-release, by the label behind the hyphen. -/
def preRelease (release : Release) (label : String) : String :=
  release.text ++ "-" ++ label

/-- The numbers of a release, compared from the first one on. -/
def triple (release : Release) : Nat ×ₗ Nat ×ₗ Nat :=
  toLex (release.major, toLex (release.minor, release.patch))

/-- The numbers of a release fit in a word of sixty-four binary digits. -/
def Fits (release : Release) : Prop :=
  release.major < 2 ^ 64 ∧ release.minor < 2 ^ 64 ∧ release.patch < 2 ^ 64

theorem numbersIn_text (release : Release) :
    numbersIn release.text.toList =
      [min greatestNumber release.major, min greatestNumber release.minor,
        min greatestNumber release.patch] := by
  have characters : release.text.toList =
      [] ++ 'v' :: ((toString release.major).toList ++
        '.' :: ((toString release.minor).toList ++
          '.' :: (toString release.patch).toList)) := by
    simp [text]
  rw [characters, numbersIn_append_cons _ _ (by decide),
    numbersIn_append_cons _ _ (by decide), numbersIn_append_cons _ _ (by decide),
    numbersIn_toString, numbersIn_toString, numbersIn_toString]
  rfl

theorem Fits.numbersIn_text
    {release : Release}
    (fits : release.Fits) :
    numbersIn release.text.toList =
      [release.major, release.minor, release.patch] := by
  have below : ∀ {number : Nat}, number < 2 ^ 64 →
      min greatestNumber number = number := by
    intro number small
    exact Nat.min_eq_right (Nat.le_of_lt_succ small)
  rw [Release.numbersIn_text, below fits.1, below fits.2.1, below fits.2.2]

/-- A release that fits can be read off the numbers in its text. -/
theorem Fits.eq_of_numbersIn_eq
    {left right : Release}
    (leftFits : left.Fits)
    (rightFits : right.Fits)
    (same : numbersIn left.text.toList = numbersIn right.text.toList) :
    left = right := by
  rw [leftFits.numbersIn_text, rightFits.numbersIn_text] at same
  simp only [List.cons.injEq] at same
  obtain ⟨sameMajor, sameMinor, samePatch, -⟩ := same
  exact mk.injEq .. ▸ ⟨sameMajor, sameMinor, samePatch⟩

/-- The keys of releases are ordered like their numbers. -/
theorem Fits.isBelow_iff
    {left right : Release}
    (leftFits : left.Fits)
    (rightFits : right.Fits) :
    (VersionKey.ofVersion left.text).isBelow (.ofVersion right.text) = true ↔
      left.triple < right.triple := by
  have numbers : (VersionKey.ofVersion left.text).numbers <
      (VersionKey.ofVersion right.text).numbers ↔ left.triple < right.triple := by
    simp only [VersionKey.ofVersion, leftFits.numbersIn_text,
      rightFits.numbersIn_text, List.cons_lt_cons_iff, triple,
      Prod.Lex.toLex_lt_toLex]
    simp
  rw [VersionKey.isBelow_iff, VersionKey.rank, VersionKey.rank,
    Prod.Lex.toLex_lt_toLex, numbers]
  constructor
  · rintro (below | ⟨sameNumbers, textBelow⟩)
    · exact below
    · -- Releases with the same numbers have the same text.
      simp only [VersionKey.ofVersion] at sameNumbers
      obtain rfl := leftFits.eq_of_numbersIn_eq rightFits sameNumbers
      exact absurd textBelow (lt_irrefl _)
  · exact .inl

/-- A list stands below what goes on behind it. -/
theorem lt_append_cons
    {α : Type}
    [LinearOrder α]
    (start : List α)
    (first : α)
    (rest : List α) :
    start < start ++ first :: rest := by
  simpa using List.append_left_lt (List.nil_lt_cons first rest)

/-- A pre-release stands above its release. -/
theorem isBelow_preRelease (release : Release) (label : String) :
    (VersionKey.ofVersion release.text).isBelow
      (.ofVersion (release.preRelease label)) = true := by
  have characters : (release.preRelease label).toList =
      release.text.toList ++ '-' :: label.toList := by
    simp [preRelease]
  have textBelow : release.text < release.preRelease label := by
    rw [String.lt_iff_toList_lt, characters]
    exact lt_append_cons _ _ _
  rw [VersionKey.isBelow_iff, VersionKey.rank, VersionKey.rank,
    Prod.Lex.toLex_lt_toLex]
  simp only [VersionKey.ofVersion, characters,
    numbersIn_append_cons _ _ (by decide : '-'.isDigit = false)]
  cases numbersIn label.toList with
  | nil => exact .inr ⟨by simp, textBelow⟩
  | cons number numbers => exact .inl (lt_append_cons _ _ _)

end Release

/-! ## Which version is found -/

section Read

variable
  {system : FileSystem}
  {directory : Path}
  {entries : List (Name × Entry)}
  {segment : String}

/-- Among releases that fit, the highest version is the one with the greatest
numbers. -/
theorem isHighest_iff_of_releases
    (releases : ∀ version, HasVersion entries segment version →
      ∃ release : Release, release.Fits ∧ version = release.text)
    {version : String} :
    IsHighest entries segment version ↔
      ∃ release : Release, release.Fits ∧ version = release.text ∧
        HasVersion entries segment release.text ∧
        ∀ other : Release, other.Fits → HasVersion entries segment other.text →
          other.triple ≤ release.triple := by
  constructor
  · rintro ⟨present, greatest⟩
    obtain ⟨release, fits, rfl⟩ := releases version present
    refine ⟨release, fits, rfl, present, ?_⟩
    intro other otherFits isOther
    have notBelow := greatest other.text isOther
    rwa [← Bool.not_eq_true, fits.isBelow_iff otherFits, not_lt] at notBelow
  · rintro ⟨release, fits, rfl, present, greatest⟩
    refine ⟨present, ?_⟩
    intro version isOther
    obtain ⟨other, otherFits, rfl⟩ := releases version isOther
    rw [← Bool.not_eq_true, fits.isBelow_iff otherFits, not_lt]
    exact greatest other otherFits isOther

/-- In a directory that can be read, a version of a segment is found exactly if
some directory has one, which may be the empty text. Then one version has the
greatest key, and of the directories with it the first one is found. It is the only
one unless names are read alike. If all versions are releases that fit, its version
is the one with the greatest numbers. -/
theorem versionedDirectory_eq_highest
    (read : system.readDirectory directory = .ok entries)
    (segment : String) :
    (∃ found, versionedDirectory system directory segment = .ok found ∧
      (found.isSome ↔ ∃ version, HasVersion entries segment version)) ∧
    ((∃ version, HasVersion entries segment version) →
      ∃! version, IsHighest entries segment version) ∧
    (∀ path, versionedDirectory system directory segment = .ok (some path) ↔
      ∃ version name, IsHighest entries segment version ∧
        Entry.firstRead? (segment ++ "@" ++ version) entries = some name ∧
        path = directory.child name) ∧
    ((entries.map fun entry => entry.1.read).Nodup →
      ∀ path, versionedDirectory system directory segment = .ok (some path) ↔
        ∃ version name inner, IsHighest entries segment version ∧
          (name, Entry.directory inner) ∈ entries ∧
          name.read = segment ++ "@" ++ version ∧
          path = directory.child name) ∧
    ((∀ version, HasVersion entries segment version →
        ∃ release : Release, release.Fits ∧ version = release.text) →
      ∀ path, versionedDirectory system directory segment = .ok (some path) ↔
        ∃ (release : Release) (name : Name), release.Fits ∧
          HasVersion entries segment release.text ∧
          (∀ other : Release, other.Fits →
            HasVersion entries segment other.text →
              other.triple ≤ release.triple) ∧
          Entry.firstRead? (segment ++ "@" ++ release.text) entries = some name ∧
          path = directory.child name) := by
  refine ⟨⟨_, versionedDirectory_eq read segment, ?_⟩, ?_,
    fun path => versionedDirectory_eq_some_iff read, ?_, ?_⟩
  · rw [Option.isSome_map, ← Option.ne_none_iff_isSome, ne_eq,
      highestVersion?_eq_none_iff, not_forall_not]
  · rintro ⟨version, present⟩
    exact existsUnique_isHighest present
  · intro distinct path
    rw [versionedDirectory_eq_some_iff read]
    simp only [Entry.firstRead?_eq_some_iff distinct]
    constructor
    · rintro ⟨version, name, highest, ⟨inner, present, isVersioned⟩, isPath⟩
      exact ⟨version, name, inner, highest, present, isVersioned, isPath⟩
    · rintro ⟨version, name, inner, highest, present, isVersioned, isPath⟩
      exact ⟨version, name, highest, ⟨inner, present, isVersioned⟩, isPath⟩
  · intro releases path
    rw [versionedDirectory_eq_some_iff read]
    simp only [isHighest_iff_of_releases releases]
    constructor
    · rintro ⟨_, name, ⟨release, fits, rfl, present, greatest⟩, isFirst, isPath⟩
      exact ⟨release, name, fits, present, greatest, isFirst, isPath⟩
    · rintro ⟨release, name, fits, present, greatest, isFirst, isPath⟩
      exact ⟨_, name, ⟨release, fits, rfl, present, greatest⟩, isFirst, isPath⟩

/-- The entries of a module cache: two releases, a file that is named like a third
one, and another module whose name starts alike, with a pre-release. -/
def shelf : List (Name × Entry) :=
  [("kit@v1.9.9", .directory []), ("kit@v2.0.0", .file (.text "")),
   ("kitchen@v3.0.0", .directory []), ("kit@v1.10.0", .directory []),
   ("kitchen@v3.0.0-rc.1", .directory [])]

/-- A file system with that module cache. -/
def shelfSystem : FileSystem where
  root := .directory [("mod", .directory shelf)]

theorem readDirectory_shelf :
    shelfSystem.readDirectory ⟨"mod", []⟩ = .ok shelf := by
  rfl

/-- The greater of the two releases is found. -/
theorem versionedDirectory_kit :
    (∀ version, HasVersion shelf "kit" version →
      ∃ release : Release, release.Fits ∧ version = release.text) ∧
    versionedDirectory shelfSystem ⟨"mod", []⟩ "kit" =
      .ok (some ⟨"mod", ["kit@v1.10.0"]⟩) := by
  have fits : Release.Fits ⟨1, 9, 9⟩ ∧ Release.Fits ⟨1, 10, 0⟩ := by
    simp [Release.Fits]
  have versions : versionsOf "kit" shelf =
      [Release.text ⟨1, 9, 9⟩, Release.text ⟨1, 10, 0⟩] := by
    decide +kernel
  have isOne : ∀ {version}, HasVersion shelf "kit" version →
      version = Release.text ⟨1, 9, 9⟩ ∨ version = Release.text ⟨1, 10, 0⟩ := by
    intro version present
    simpa [versions] using hasVersion_iff_mem_versionsOf.mp present
  have releases : ∀ version, HasVersion shelf "kit" version →
      ∃ release : Release, release.Fits ∧ version = release.text := by
    intro version present
    rcases isOne present with isLower | isHigher
    · exact ⟨_, fits.1, isLower⟩
    · exact ⟨_, fits.2, isHigher⟩
  obtain ⟨-, -, -, -, ofReleases⟩ :=
    versionedDirectory_eq_highest readDirectory_shelf "kit"
  refine ⟨releases, (ofReleases releases _).mpr
    ⟨⟨1, 10, 0⟩, "kit@v1.10.0", fits.2, by decide +kernel, ?_, by decide +kernel,
      by decide +kernel⟩⟩
  intro other otherFits present
  rcases isOne present with isLower | isHigher
  · obtain rfl := otherFits.eq_of_numbersIn_eq fits.1 (by rw [isLower])
    decide
  · obtain rfl := otherFits.eq_of_numbersIn_eq fits.2 (by rw [isHigher])
    exact le_rfl

/-- Two names that are no texts and are read alike. -/
def twins : Name × Name :=
  (.bytes [107, 105, 116, 64, 118, 49, 254] (by decide),
    .bytes [107, 105, 116, 64, 118, 49, 255] (by decide))

/-- Of two directories with the same version, the one that is listed first is found,
and a directory is found that has the empty text for its version. -/
theorem versionedDirectory_twins :
    let system entries : FileSystem :=
      ⟨.directory [("mod", .directory entries)], []⟩
    twins.1 ≠ twins.2 ∧ twins.1.read = twins.2.read ∧
    versionedDirectory
        (system [(twins.1, .directory []), (twins.2, .directory [])])
        ⟨"mod", []⟩ "kit" = .ok (some ⟨"mod", [twins.1]⟩) ∧
    versionedDirectory
        (system [(twins.2, .directory []), (twins.1, .directory [])])
        ⟨"mod", []⟩ "kit" = .ok (some ⟨"mod", [twins.2]⟩) ∧
    versionedDirectory (system [("kit@", .directory [])]) ⟨"mod", []⟩ "kit" =
      .ok (some ⟨"mod", ["kit@"]⟩) := by
  decide +kernel

/-- Among the pre-releases of a release, the release is found exactly if there is
no pre-release. Otherwise the pre-release with the greatest key is found. Of several
directories that are read alike it is the first one. -/
theorem versionedDirectory_eq_release_iff
    (read : system.readDirectory directory = .ok entries)
    {release : Release}
    (released : HasVersion entries segment release.text)
    (noOther : ∀ version, HasVersion entries segment version →
      version = release.text ∨
        ∃ label, label ≠ "" ∧ version = release.preRelease label) :
    ((∃ name,
        Entry.firstRead? (segment ++ "@" ++ release.text) entries = some name ∧
        versionedDirectory system directory segment =
          .ok (some (directory.child name))) ↔
      ∀ label, label ≠ "" →
        ¬HasVersion entries segment (release.preRelease label)) ∧
    ∀ label, label ≠ "" → HasVersion entries segment (release.preRelease label) →
      ∃ highest name, highest ≠ "" ∧
        IsHighest entries segment (release.preRelease highest) ∧
        Entry.firstRead? (segment ++ "@" ++ release.preRelease highest) entries =
          some name ∧
        versionedDirectory system directory segment =
          .ok (some (directory.child name)) := by
  have notHighest : ∀ label, HasVersion entries segment (release.preRelease label) →
      ¬IsHighest entries segment release.text := by
    intro label present highest
    have notBelow := highest.greatest _ present
    rw [release.isBelow_preRelease] at notBelow
    cases notBelow
  obtain ⟨version, highest, -⟩ := existsUnique_isHighest released
  obtain ⟨name, isFirst⟩ := hasVersion_iff_firstRead?.mp highest.hasVersion
  have found := (versionedDirectory_eq_some_iff read).mpr
    ⟨version, name, highest, isFirst, rfl⟩
  refine ⟨⟨?_, ?_⟩, ?_⟩
  · rintro ⟨other, isReleased, isRelease⟩ label _ present
    have samePath := Option.some.inj (Except.ok.inj (found.symm.trans isRelease))
    obtain rfl := directory.child_injective samePath
    obtain ⟨_, -, asVersion⟩ := Entry.mem_of_firstRead? isFirst
    obtain ⟨_, -, asRelease⟩ := Entry.mem_of_firstRead? isReleased
    have sameVersion := versioned_inj (asVersion.symm.trans asRelease)
    exact notHighest label present (sameVersion ▸ highest)
  · intro noPreRelease
    rcases noOther version highest.hasVersion with rfl | ⟨label, nonempty, rfl⟩
    · exact ⟨name, isFirst, found⟩
    · exact absurd highest.hasVersion (noPreRelease label nonempty)
  · intro label nonempty present
    rcases noOther version highest.hasVersion with rfl | ⟨other, isLabel, rfl⟩
    · exact absurd highest (notHighest label present)
    · exact ⟨other, name, isLabel, highest, isFirst, found⟩

/-- The release is not the one that is found beside its pre-release. -/
theorem versionedDirectory_kitchen :
    HasVersion shelf "kitchen" (Release.text ⟨3, 0, 0⟩) ∧
    (∀ version, HasVersion shelf "kitchen" version →
      version = Release.text ⟨3, 0, 0⟩ ∨
        ∃ label, label ≠ "" ∧ version = Release.preRelease ⟨3, 0, 0⟩ label) ∧
    versionedDirectory shelfSystem ⟨"mod", []⟩ "kitchen" ≠
      .ok (some ⟨"mod", ["kitchen@v3.0.0"]⟩) := by
  have versions : versionsOf "kitchen" shelf =
      [Release.text ⟨3, 0, 0⟩, Release.preRelease ⟨3, 0, 0⟩ "rc.1"] := by
    decide +kernel
  have released : HasVersion shelf "kitchen" (Release.text ⟨3, 0, 0⟩) := by
    simp [hasVersion_iff_mem_versionsOf, versions]
  have candidate :
      HasVersion shelf "kitchen" (Release.preRelease ⟨3, 0, 0⟩ "rc.1") := by
    simp [hasVersion_iff_mem_versionsOf, versions]
  have noOther : ∀ version, HasVersion shelf "kitchen" version →
      version = Release.text ⟨3, 0, 0⟩ ∨
        ∃ label, label ≠ "" ∧ version = Release.preRelease ⟨3, 0, 0⟩ label := by
    intro version present
    have isOne : version = Release.text ⟨3, 0, 0⟩ ∨
        version = Release.preRelease ⟨3, 0, 0⟩ "rc.1" := by
      simpa [versions] using hasVersion_iff_mem_versionsOf.mp present
    exact isOne.imp_right fun isCandidate => ⟨"rc.1", by decide, isCandidate⟩
  refine ⟨released, noOther, ?_⟩
  intro isRelease
  exact (versionedDirectory_eq_release_iff readDirectory_shelf released
    noOther).1.mp ⟨"kitchen@v3.0.0", by decide +kernel, isRelease⟩ "rc.1"
      (by decide) candidate

/-- The pre-release is found although its release is there. -/
theorem versionedDirectory_candidate :
    HasVersion shelf "kitchen" "v3.0.0" ∧
    versionsOf "kitchen" shelf = ["v3.0.0", "v3.0.0-rc.1"] ∧
    versionedDirectory shelfSystem ⟨"mod", []⟩ "kitchen" =
      .ok (some ⟨"mod", ["kitchen@v3.0.0-rc.1"]⟩) := by
  decide +kernel

end Read

end Dependency
end EnvTags
