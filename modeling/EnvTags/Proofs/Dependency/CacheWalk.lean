import EnvTags.Proofs.Dependency.HighestVersion
import EnvTags.Proofs.EscapedPath
import EnvTags.Proofs.Project.Selection
import Mathlib.Data.List.Forall2

/-!
# Walks through a module cache

In a module cache a row of directories leads to a package, one for each segment of
its import path. A directory stands for a segment if it is named like the segment, or
if its name is read as the segment with a version. Several directories may stand for
one segment. The walk takes the one that comes first and never goes back, and where
none stands for the next segment it ends. The main statement says that the walk finds
a directory if some row leads to the package, and that it finds the package exactly
if no directory comes before one in the row.
-/

namespace EnvTags
namespace Dependency

/-! ## Names for a segment -/

/-- A name is that of a segment, or is read as the segment with a version. -/
def StandsFor (segment : String) (name : Name) : Prop :=
  name = segment ∨ ∃ version, name.read = segment ++ "@" ++ version

/-- A name comes before another one for a segment: the segment alone before all
versions, a version before those with a lower key, and of names that are read alike
the one that is listed first. -/
inductive ComesBefore (listed : List Name) (segment : String) : Name → Name → Prop
  /-- The segment alone. -/
  | alone {name : Name} {version : String}
      (isVersioned : name.read = segment ++ "@" ++ version) :
      ComesBefore listed segment segment name
  /-- The higher version. -/
  | higher {rival name : Name} {low high : String}
      (isHigh : rival.read = segment ++ "@" ++ high)
      (isLow : name.read = segment ++ "@" ++ low)
      (below : (VersionKey.ofVersion low).isBelow (.ofVersion high) = true) :
      ComesBefore listed segment rival name
  /-- The one that is listed first. -/
  | earlier {rival name : Name} {version : String}
      (isRival : rival.read = segment ++ "@" ++ version)
      (isVersioned : name.read = segment ++ "@" ++ version)
      (before : listed.idxOf rival < listed.idxOf name) :
      ComesBefore listed segment rival name

instance (segment : String) (name : Name) : Decidable (StandsFor segment name) :=
  decidable_of_iff (name = segment ∨ (version? segment name).isSome = true) <| by
    simp [StandsFor, Option.isSome_iff_exists, version?_eq_some_iff]

theorem versioned_ne_self (segment version : String) :
    segment ++ "@" ++ version ≠ segment := by
  intro same
  have longer := congrArg (fun name => name.toList.length) same
  simp at longer

/-- Nothing comes before the segment alone. -/
theorem ComesBefore.ne_self
    {listed : List Name}
    {segment : String}
    {rival name : Name}
    (before : ComesBefore listed segment rival name) :
    name ≠ segment := by
  have versioned : ∀ {version : String},
      name.read = segment ++ "@" ++ version → name ≠ segment := by
    rintro version isVersioned rfl
    exact versioned_ne_self segment version isVersioned.symm
  cases before with
  | alone isVersioned => exact versioned isVersioned
  | higher _ isLow _ => exact versioned isLow
  | earlier _ isVersioned _ => exact versioned isVersioned

/-- Of two names for a segment that are listed one comes before the other. -/
theorem StandsFor.trichotomy
    {listed : List Name}
    {segment : String}
    {left right : Name}
    (ofLeft : StandsFor segment left)
    (ofRight : StandsFor segment right)
    (isListed : left ∈ listed) :
    ComesBefore listed segment left right ∨ left = right ∨
      ComesBefore listed segment right left := by
  rcases ofLeft with rfl | ⟨low, isLeft⟩ <;>
    rcases ofRight with rfl | ⟨high, isRight⟩
  · exact .inr (.inl rfl)
  · exact .inl (.alone isRight)
  · exact .inr (.inr (.alone isLeft))
  · rcases lt_trichotomy (VersionKey.ofVersion low).rank
        (VersionKey.ofVersion high).rank with below | same | above
    · exact .inr (.inr (.higher isRight isLeft (VersionKey.isBelow_iff.mpr below)))
    · -- The names are read alike, so their places in the listing decide.
      obtain rfl : low = high :=
        congrArg VersionKey.text (VersionKey.rank_injective same)
      rcases lt_trichotomy (listed.idxOf left) (listed.idxOf right) with
        before | samePlace | after
      · exact .inl (.earlier isLeft isRight before)
      · exact .inr (.inl ((List.idxOf_inj isListed).mp samePlace))
      · exact .inr (.inr (.earlier isRight isLeft after))
    · exact .inl (.higher isLeft isRight (VersionKey.isBelow_iff.mpr above))

/-! ## One step -/

/-- The names in a directory as they are listed. -/
def listedNames (system : FileSystem) (directory : Path) : List Name :=
  match system.readDirectory directory with
  | .error _ => []
  | .ok entries => entries.map Prod.fst

/-- A directory has a directory with a name in it. -/
def HasDirectory (system : FileSystem) (directory : Path) (name : Name) : Prop :=
  Path.IsEntryName name ∧ system.isDirectory (directory.child name) = true

/-- Of the directories that stand for a segment, one comes first. -/
structure ComesFirst
    (system : FileSystem)
    (directory : Path)
    (segment : String)
    (name : Name) : Prop where
  isThere : HasDirectory system directory name
  standsFor : StandsFor segment name
  unrivalled : ∀ rival, HasDirectory system directory rival →
    ¬ComesBefore (listedNames system directory) segment rival name

/-- A directory is found in the listing. -/
theorem HasDirectory.exists_mem
    {system : FileSystem}
    {directory : Path}
    {entries : List (Name × Entry)}
    (found : system.entry directory = .ok (.directory entries))
    {name : Name}
    (isThere : HasDirectory system directory name) :
    ∃ inner, (name, Entry.directory inner) ∈ entries := by
  obtain ⟨⟨steps, -⟩, isDirectory⟩ := isThere
  obtain ⟨inner, isInner⟩ :=
    FileSystem.exists_directory_of_isDirectory isDirectory
  rw [FileSystem.entry_child_eq found steps] at isInner
  cases isEntry : entries.lookup name with
  | none => simp [isEntry] at isInner
  | some entry =>
      obtain rfl : entry = .directory inner := by simpa [isEntry] using isInner
      obtain ⟨before, after, rfl, -⟩ := List.lookup_eq_some_iff.mp isEntry
      exact ⟨inner, by simp⟩

theorem HasDirectory.mem_listedNames
    {system : FileSystem}
    {directory : Path}
    (nonempty : directory ≠ Path.empty)
    {name : Name}
    (isThere : HasDirectory system directory name) :
    name ∈ listedNames system directory := by
  obtain ⟨inner, isInner⟩ :=
    FileSystem.exists_directory_of_isDirectory isThere.2
  obtain ⟨entries, found⟩ :=
    FileSystem.exists_directory_of_entry_child nonempty isInner
  obtain ⟨_, present⟩ := isThere.exists_mem found
  rw [listedNames, FileSystem.readDirectory, found]
  exact List.mem_map.mpr ⟨_, present, rfl⟩

theorem ComesFirst.unique
    {system : FileSystem}
    {directory : Path}
    (nonempty : directory ≠ Path.empty)
    {segment : String}
    {left right : Name}
    (ofLeft : ComesFirst system directory segment left)
    (ofRight : ComesFirst system directory segment right) :
    left = right := by
  rcases ofLeft.standsFor.trichotomy ofRight.standsFor
    (ofLeft.isThere.mem_listedNames nonempty) with before | same | after
  · exact absurd before (ofRight.unrivalled left ofLeft.isThere)
  · exact same
  · exact absurd after (ofLeft.unrivalled right ofRight.isThere)

section Step

variable
  {system : FileSystem}
  (wellNamed : system.isWellNamed = true)
  (distinct : system.hasDistinctNames = true)
  {directory : Path}
include wellNamed distinct

/-- The directories in a directory are those in its listing. -/
theorem hasDirectory_iff_mem
    {entries : List (Name × Entry)}
    (found : system.entry directory = .ok (.directory entries))
    {name : Name} :
    HasDirectory system directory name ↔
      ∃ inner, (name, Entry.directory inner) ∈ entries := by
  refine ⟨fun isThere => isThere.exists_mem found, ?_⟩
  rintro ⟨inner, present⟩
  have names := FileSystem.isWellNamed_of_entry wellNamed found
  have differ := FileSystem.hasDistinctNames_of_entry distinct found
  have isName := (Entry.areWellNamed_iff.mp names _ present).1
  have isEntry := Entry.lookup_of_mem
    (Entry.hasDistinctNames_directory_iff.mp differ).1 present
  refine ⟨isName, ?_⟩
  rw [FileSystem.isDirectory, FileSystem.entry_child_eq found isName.1, isEntry]
  rfl

/-- The first directory with the highest version comes first, if there is none with
the segment's own name. -/
theorem comesFirst_of_isHighest
    {entries : List (Name × Entry)}
    (found : system.entry directory = .ok (.directory entries))
    {segment version : String}
    (notAlone : system.isDirectory (directory.child segment) ≠ true)
    (highest : IsHighest entries segment version)
    {name : Name}
    (isFirst : Entry.firstRead? (segment ++ "@" ++ version) entries = some name) :
    ComesFirst system directory segment name := by
  have isThere : ∀ {name}, HasDirectory system directory name ↔
      ∃ inner, (name, Entry.directory inner) ∈ entries :=
    hasDirectory_iff_mem wellNamed distinct found
  have names : listedNames system directory = entries.map Prod.fst := by
    rw [listedNames, FileSystem.readDirectory, found]
  have differ := (Entry.hasDistinctNames_directory_iff.mp
    (FileSystem.hasDistinctNames_of_entry distinct found)).1
  obtain ⟨inner, present, isVersioned⟩ := Entry.mem_of_firstRead? isFirst
  refine ⟨isThere.mpr ⟨inner, present⟩, .inr ⟨version, isVersioned⟩, ?_⟩
  intro rival rivalIsThere before
  obtain ⟨rivalInner, rivalPresent⟩ := isThere.mp rivalIsThere
  rw [names] at before
  cases before with
  | alone => exact notAlone rivalIsThere.2
  | @higher _ _ low high isHigh isLow below =>
      obtain rfl := versioned_inj (isVersioned.symm.trans isLow)
      rw [highest.greatest high ⟨rival, rivalInner, rivalPresent, isHigh⟩] at below
      cases below
  | @earlier _ _ other isRival isOther earlier =>
      obtain rfl := versioned_inj (isVersioned.symm.trans isOther)
      exact Entry.not_idxOf_lt_of_firstRead? differ isFirst rivalPresent isRival
        earlier

/-- The step for a segment goes to the directory that comes first. Without one
nothing stands for the segment. -/
theorem segmentDirectory_cases
    (isDirectory : system.isDirectory directory = true)
    {segment : String}
    (isName : Path.IsEntryName segment) :
    (∃ name, ComesFirst system directory segment name ∧
      segmentDirectory system directory segment =
        .ok (some (directory.child name))) ∨
    ((∀ name, HasDirectory system directory name → ¬StandsFor segment name) ∧
      segmentDirectory system directory segment = .ok none) := by
  unfold segmentDirectory
  by_cases isAlone : system.isDirectory (directory.child segment) = true
  · rw [if_pos isAlone]
    exact .inl ⟨segment, ⟨⟨isName, isAlone⟩, .inl rfl,
      fun _ _ before => before.ne_self rfl⟩, rfl⟩
  · rw [if_neg isAlone]
    obtain ⟨entries, found⟩ :=
      FileSystem.exists_directory_of_isDirectory isDirectory
    have read : system.readDirectory directory = .ok entries := by
      rw [FileSystem.readDirectory, found]
    rw [versionedDirectory_eq read]
    cases isHighest : highestVersion? segment entries with
    | none =>
        refine .inr ⟨?_, rfl⟩
        rintro name isThere (rfl | ⟨version, isVersioned⟩)
        · exact isAlone isThere.2
        · obtain ⟨inner, present⟩ := isThere.exists_mem found
          exact highestVersion?_eq_none_iff.mp isHighest version
            ⟨name, inner, present, isVersioned⟩
    | some name =>
        obtain ⟨version, highest, isFirst⟩ :=
          highestVersion?_eq_some_iff.mp isHighest
        exact .inl ⟨name, comesFirst_of_isHighest wellNamed distinct found isAlone
          highest isFirst, rfl⟩

end Step

/-! ## The walk -/

/-- Names that a walk takes: for each segment the one that comes first, until the
segments end or nothing stands for the next one. -/
inductive Walks (system : FileSystem) :
    Path → List String → List Name → Prop
  /-- There is no segment left. -/
  | arrived {directory : Path} : Walks system directory [] []
  /-- Nothing stands for the next segment. -/
  | stuck {directory : Path} {segment : String} {segments : List String}
      (nothing : ∀ name, HasDirectory system directory name →
        ¬StandsFor segment name) :
      Walks system directory (segment :: segments) []
  /-- A directory comes first for the next segment. -/
  | step {directory : Path} {segment : String} {name : Name}
      {segments : List String} {names : List Name}
      (first : ComesFirst system directory segment name)
      (others : Walks system (directory.child name) segments names) :
      Walks system directory (segment :: segments) (name :: names)

/-- A row of directories, one for each of some segments. -/
structure LeadsThrough
    (system : FileSystem)
    (directory : Path)
    (segments : List String)
    (names : List Name) : Prop where
  areNames : ∀ name ∈ names, Path.IsEntryName name
  standFor : List.Forall₂ StandsFor segments names
  isDirectory : system.isDirectory (Project.pathBelow directory names) = true

/-- No directory comes before one in a row. -/
def IsUnrivalled (system : FileSystem) :
    Path → List String → List Name → Prop
  | directory, segment :: segments, name :: names =>
      (∀ rival, HasDirectory system directory rival →
        ¬ComesBefore (listedNames system directory) segment rival name) ∧
      IsUnrivalled system (directory.child name) segments names
  | _, _, _ => True

/-- A row of names comes through directories. -/
theorem isDirectory_of_pathBelow
    {system : FileSystem}
    {directory : Path}
    (nonempty : directory ≠ Path.empty)
    {names : List Name}
    (isDirectory : system.isDirectory (Project.pathBelow directory names) = true) :
    system.isDirectory directory = true := by
  induction names generalizing directory with
  | nil => exact isDirectory
  | cons name names inductionHypothesis =>
      have below := inductionHypothesis (Path.child_ne_empty nonempty name) isDirectory
      obtain ⟨inner, isInner⟩ := FileSystem.exists_directory_of_isDirectory below
      obtain ⟨entries, found⟩ :=
        FileSystem.exists_directory_of_entry_child nonempty isInner
      rw [FileSystem.isDirectory, found]
      rfl

theorem LeadsThrough.uncons
    {system : FileSystem}
    {directory : Path}
    (nonempty : directory ≠ Path.empty)
    {segment : String}
    {segments : List String}
    {names : List Name}
    (leads : LeadsThrough system directory (segment :: segments) names) :
    ∃ name others, names = name :: others ∧ StandsFor segment name ∧
      HasDirectory system directory name ∧
      LeadsThrough system (directory.child name) segments others := by
  obtain ⟨areNames, standFor, isDirectory⟩ := leads
  obtain ⟨name, others, standsFor, othersStand, rfl⟩ :=
    List.forall₂_cons_left_iff.mp standFor
  obtain ⟨isName, otherNames⟩ := List.forall_mem_cons.mp areNames
  exact ⟨name, others, rfl, standsFor,
    ⟨isName, isDirectory_of_pathBelow (Path.child_ne_empty nonempty name) isDirectory⟩,
    otherNames, othersStand, isDirectory⟩

theorem Walks.areNames
    {system : FileSystem}
    {directory : Path}
    {segments : List String}
    {taken : List Name}
    (walks : Walks system directory segments taken) :
    ∀ name ∈ taken, Path.IsEntryName name := by
  induction walks with
  | arrived | stuck nothing => simp
  | step first walk inductionHypothesis =>
      exact List.forall_mem_cons.mpr ⟨first.isThere.1, inductionHypothesis⟩

/-- A walk takes the first step if some row leads through all segments. -/
theorem Walks.ne_nil
    {system : FileSystem}
    {directory : Path}
    {segments : List String}
    {taken names : List Name}
    (walks : Walks system directory segments taken)
    (nonempty : directory ≠ Path.empty)
    (leads : LeadsThrough system directory segments names)
    (goesOn : segments ≠ []) :
    taken ≠ [] := by
  cases walks with
  | arrived => exact absurd rfl goesOn
  | stuck nothing =>
      obtain ⟨name, others, -, standsFor, isThere, -⟩ := leads.uncons nonempty
      exact absurd standsFor (nothing name isThere)
  | step first others => exact List.cons_ne_nil _ _

/-- A walk takes a row that leads through all segments exactly if no directory
comes before one in the row. -/
theorem Walks.eq_iff_isUnrivalled
    {system : FileSystem}
    {directory : Path}
    {segments : List String}
    {taken names : List Name}
    (walks : Walks system directory segments taken)
    (nonempty : directory ≠ Path.empty)
    (leads : LeadsThrough system directory segments names) :
    taken = names ↔ IsUnrivalled system directory segments names := by
  induction walks generalizing names with
  | arrived =>
      obtain rfl := List.forall₂_nil_left_iff.mp leads.standFor
      simp [IsUnrivalled]
  | stuck nothing =>
      obtain ⟨name, others, -, standsFor, isThere, -⟩ := leads.uncons nonempty
      exact absurd standsFor (nothing name isThere)
  | @step directory segment name segments taken first walk inductionHypothesis =>
      obtain ⟨other, others, rfl, standsFor, isThere, othersLead⟩ :=
        leads.uncons nonempty
      have continued := fun same : name = other =>
        inductionHypothesis (Path.child_ne_empty nonempty name)
          (same ▸ othersLead)
      constructor
      · intro same
        obtain ⟨rfl, rfl⟩ := List.cons.inj same
        exact ⟨first.unrivalled, (continued rfl).mp rfl⟩
      · rintro ⟨unrivalled, othersUnrivalled⟩
        obtain rfl := first.unique nonempty ⟨isThere, standsFor, unrivalled⟩
        rw [(continued rfl).mpr othersUnrivalled]

section Located

variable
  {system : FileSystem}
  (wellNamed : system.isWellNamed = true)
  (distinct : system.hasDistinctNames = true)
include wellNamed distinct

theorem exists_walks
    {directory : Path}
    (isDirectory : system.isDirectory directory = true)
    {segments : List String}
    (areNames : ∀ segment ∈ segments, Path.IsEntryName segment) :
    ∃ taken, Walks system directory segments taken ∧
      deepestDirectory system directory segments =
        .ok (Project.pathBelow directory taken) := by
  induction segments generalizing directory with
  | nil => exact ⟨[], .arrived, rfl⟩
  | cons segment segments inductionHypothesis =>
      obtain ⟨isName, otherNames⟩ := List.forall_mem_cons.mp areNames
      rw [deepestDirectory]
      rcases segmentDirectory_cases wellNamed distinct isDirectory isName with
        ⟨name, first, isNext⟩ | ⟨nothing, isNext⟩
      · obtain ⟨taken, walk, isDeepest⟩ :=
          inductionHypothesis first.isThere.2 otherNames
        rw [isNext]
        exact ⟨name :: taken, .step first walk, isDeepest⟩
      · rw [isNext]
        exact ⟨[], .stuck nothing, rfl⟩

omit wellNamed distinct in
/-- The segments of an escaped path that can name entries are its parts. -/
theorem segments_escape
    {importPath : String}
    (areNames : ∀ segment ∈ ImportPath.escapedParts importPath,
      Path.IsEntryName segment) :
    segments (ImportPath.escape importPath) =
      ImportPath.escapedParts importPath := by
  rw [segments, ImportPath.parts_escape, List.filter_eq_self]
  intro segment present
  simpa using (areNames segment present).1.ne_empty

/-- In a module cache, the directory at the end of the walk is located, or none if
nothing stands for the first segment. -/
theorem exists_walks_locateInCache
    {cache : Path}
    (isDirectory : system.isDirectory cache = true)
    {importPath : String}
    (areNames : ∀ segment ∈ segments (ImportPath.escape importPath),
      Path.IsEntryName segment) :
    ∃ taken, Walks system cache (segments (ImportPath.escape importPath)) taken ∧
      locateInCache system cache importPath =
        .ok (if taken = [] then none else some (Project.pathBelow cache taken)) := by
  unfold locateInCache
  generalize segments (ImportPath.escape importPath) = segments at areNames
  cases segments with
  | nil => exact ⟨[], .arrived, rfl⟩
  | cons segment others =>
      obtain ⟨isName, otherNames⟩ := List.forall_mem_cons.mp areNames
      rcases segmentDirectory_cases wellNamed distinct isDirectory isName with
        ⟨name, first, isNext⟩ | ⟨nothing, isNext⟩
      · obtain ⟨taken, walk, isDeepest⟩ :=
          exists_walks wellNamed distinct first.isThere.2 otherNames
        refine ⟨name :: taken, .step first walk, ?_⟩
        simp only [isNext, isDeepest, if_neg (List.cons_ne_nil name taken)]
        rfl
      · exact ⟨[], .stuck nothing, by simp only [isNext, if_true]⟩

/-- If a row of directories leads to a package, some directory is located in the
module cache, namely the one at the end of the walk. It is the package exactly if
no directory comes before one in the row. -/
theorem locateInCache_eq_package_iff
    {cache : Path}
    (isDirectory : system.isDirectory cache = true)
    {importPath : String}
    (steps : ∀ part ∈ Text.parts '/' importPath, Path.StepsToEntry part)
    {names : List Name}
    (leads : LeadsThrough system cache (ImportPath.escapedParts importPath) names) :
    (∃ taken, taken ≠ [] ∧
      Walks system cache (ImportPath.escapedParts importPath) taken ∧
      locateInCache system cache importPath =
        .ok (some (Project.pathBelow cache taken))) ∧
    (locateInCache system cache importPath =
        .ok (some (Project.pathBelow cache names)) ↔
      IsUnrivalled system cache (ImportPath.escapedParts importPath) names) := by
  have areNames : ∀ segment ∈ ImportPath.escapedParts importPath,
      Path.IsEntryName segment := fun _ =>
    ImportPath.isEntryName_of_mem_escapedParts steps
  have isSplit := segments_escape areNames
  have cacheNonempty : cache ≠ Path.empty :=
    FileSystem.ne_empty_of_contains (FileSystem.contains_of_isDirectory isDirectory)
  obtain ⟨taken, walk, located⟩ := exists_walks_locateInCache wellNamed distinct
    isDirectory (isSplit ▸ areNames)
  rw [isSplit] at walk
  have nonempty : taken ≠ [] :=
    walk.ne_nil cacheNonempty leads
      (by simp [ImportPath.escapedParts, Text.parts_ne_nil])
  rw [if_neg nonempty] at located
  refine ⟨⟨taken, nonempty, walk, located⟩, ?_⟩
  rw [located, ← walk.eq_iff_isUnrivalled cacheNonempty leads]
  simp only [Except.ok.injEq, Option.some.injEq]
  exact ⟨Project.pathBelow_inj walk.areNames leads.areNames, congrArg _⟩

end Located

/-- A module cache with a module and, beside it, the directory of its next major
version. -/
def nested : FileSystem where
  root := .directory [("mod", .directory [("github.com", .directory [("!acme",
    .directory [("kit@v1.0.0", .directory [("sub", .directory [])]),
      ("kit", .directory [("v2@v2.0.0", .directory [])])])])])]

/-- The walk finds the next major version. -/
theorem locateInCache_nested :
    LeadsThrough nested ⟨"mod", []⟩
      (ImportPath.escapedParts "github.com/Acme/kit/v2")
      ["github.com", "!acme", "kit", "v2@v2.0.0"] ∧
    locateInCache nested ⟨"mod", []⟩ "github.com/Acme/kit/v2" =
      .ok (some ⟨"mod", ["github.com", "!acme", "kit", "v2@v2.0.0"]⟩) ∧
    IsUnrivalled nested ⟨"mod", []⟩
      (ImportPath.escapedParts "github.com/Acme/kit/v2")
      ["github.com", "!acme", "kit", "v2@v2.0.0"] := by
  have leads : LeadsThrough nested ⟨"mod", []⟩
      (ImportPath.escapedParts "github.com/Acme/kit/v2")
      ["github.com", "!acme", "kit", "v2@v2.0.0"] :=
    ⟨by decide +kernel, by decide +kernel, by decide +kernel⟩
  have located : locateInCache nested ⟨"mod", []⟩ "github.com/Acme/kit/v2" =
      .ok (some ⟨"mod", ["github.com", "!acme", "kit", "v2@v2.0.0"]⟩) := by
    decide +kernel
  exact ⟨leads, located, (locateInCache_eq_package_iff (by decide +kernel)
    (by decide +kernel) (by decide +kernel) (by decide +kernel) leads).2.mp located⟩

/-- Only one row of directories leads to a package of the module, but the walk has
taken the directory of the next major version and cannot go on. -/
theorem locateInCache_eq_parent_nested :
    (∃! names, LeadsThrough nested ⟨"mod", []⟩
      (ImportPath.escapedParts "github.com/Acme/kit/sub") names) ∧
    LeadsThrough nested ⟨"mod", []⟩
      (ImportPath.escapedParts "github.com/Acme/kit/sub")
      ["github.com", "!acme", "kit@v1.0.0", "sub"] ∧
    locateInCache nested ⟨"mod", []⟩ "github.com/Acme/kit/sub" =
      .ok (some ⟨"mod", ["github.com", "!acme", "kit"]⟩) := by
  have leads : LeadsThrough nested ⟨"mod", []⟩
      (ImportPath.escapedParts "github.com/Acme/kit/sub")
      ["github.com", "!acme", "kit@v1.0.0", "sub"] :=
    ⟨by decide +kernel, by decide +kernel, by decide +kernel⟩
  refine ⟨⟨_, leads, ?_⟩, leads, by decide +kernel⟩
  intro names alsoLeads
  have isSplit : ImportPath.escapedParts "github.com/Acme/kit/sub" =
      ["github.com", "!acme", "kit", "sub"] := by
    decide +kernel
  rw [isSplit] at alsoLeads
  have isListed : ∀ {directory entries name},
      nested.entry directory = .ok (.directory entries) →
      HasDirectory nested directory name → name ∈ entries.map Prod.fst := by
    intro directory entries name found isThere
    obtain ⟨inner, present⟩ :=
      (hasDirectory_iff_mem (by decide +kernel) (by decide +kernel) found).mp isThere
    exact List.mem_map.mpr ⟨_, present, rfl⟩
  obtain ⟨host, owned, rfl, -, isHost, alsoLeads⟩ := alsoLeads.uncons (by decide)
  obtain rfl : host = "github.com" := by simpa using isListed rfl isHost
  obtain ⟨owner, kept, rfl, -, isOwner, alsoLeads⟩ := alsoLeads.uncons (by decide)
  obtain rfl : owner = "!acme" := by simpa using isListed rfl isOwner
  obtain ⟨kit, below, rfl, -, isKit, alsoLeads⟩ := alsoLeads.uncons (by decide)
  obtain ⟨last, none, rfl, standsFor, isLast, alsoLeads⟩ :=
    alsoLeads.uncons (Path.child_ne_empty (by decide) kit)
  obtain rfl := List.forall₂_nil_left_iff.mp alsoLeads.standFor
  have isModule : kit = "kit@v1.0.0" ∨ kit = "kit" := by
    simpa using isListed rfl isKit
  rcases isModule with rfl | rfl
  · obtain rfl : last = "sub" := by simpa using isListed rfl isLast
    rfl
  · obtain rfl : last = "v2@v2.0.0" := by simpa using isListed rfl isLast
    exact absurd standsFor (by decide)

end Dependency
end EnvTags
