import EnvTags.Proofs.FileSystem.Lookup

/-!
# The names in a file system

A file system is well named if every entry in it has a name that is not empty,
not a dot or two, and free of slashes. Sorting the entries of a tree by their
names keeps the names. In one directory no two entries have one name, though their
names may be read alike.
-/

namespace EnvTags

namespace Entry

/-- Inserting by name adds the entry and nothing else. -/
theorem mem_insertByName
    {entry other : Name × Entry}
    {entries : List (Name × Entry)} :
    other ∈ insertByName entry entries ↔ other = entry ∨ other ∈ entries := by
  induction entries with
  | nil => simp [insertByName]
  | cons first entries inductionHypothesis =>
      unfold insertByName
      split
      · simp only [List.mem_cons, inductionHypothesis]
        exact or_left_comm
      · simp

/-- Sorting by name keeps the entries. -/
theorem mem_sortByName
    {entry : Name × Entry}
    {entries : List (Name × Entry)} :
    entry ∈ sortByName entries ↔ entry ∈ entries := by
  induction entries with
  | nil => simp [sortByName]
  | cons first entries inductionHypothesis =>
      simp [sortByName, mem_insertByName, inductionHypothesis]

mutual

/-- Whether all entries in a tree are named as entries can be. -/
def isWellNamed : Entry → Bool
  | file _ => true
  | directory entries => areWellNamed entries

/-- Whether the trees in a directory and all entries in them are named as entries
can be. -/
def areWellNamed : List (Name × Entry) → Bool
  | [] => true
  | (name, entry) :: entries =>
      decide (Path.IsEntryName name) && isWellNamed entry &&
        areWellNamed entries

end

theorem areWellNamed_iff
    {entries : List (Name × Entry)} :
    areWellNamed entries = true ↔
      ∀ entry ∈ entries, Path.IsEntryName entry.1 ∧ isWellNamed entry.2 = true := by
  induction entries with
  | nil => simp [areWellNamed]
  | cons entry entries inductionHypothesis =>
      simp [areWellNamed, inductionHypothesis]

mutual

theorem isWellNamed_sorted
    (entry : Entry)
    (wellNamed : isWellNamed entry = true) :
    isWellNamed (sorted entry) = true := by
  match entry with
  | file content => rfl
  | directory entries =>
      have each := areWellNamed_sortedEach entries wellNamed
      rw [areWellNamed_iff] at each
      rw [sorted, isWellNamed, areWellNamed_iff]
      intro child inside
      exact each child (mem_sortByName.mp inside)

theorem areWellNamed_sortedEach
    (entries : List (Name × Entry))
    (wellNamed : areWellNamed entries = true) :
    areWellNamed (sortedEach entries) = true := by
  match entries with
  | [] => rfl
  | (name, entry) :: entries =>
      simp only [areWellNamed, Bool.and_eq_true] at wellNamed
      simp only [sortedEach, areWellNamed, Bool.and_eq_true]
      exact ⟨⟨wellNamed.1.1, isWellNamed_sorted entry wellNamed.1.2⟩,
        areWellNamed_sortedEach entries wellNamed.2⟩

end

/-! ## Directories in a tree -/

mutual

/-- Whether something holds of the entries of every directory in a tree. -/
def everywhere (holds : List (Name × Entry) → Bool) : Entry → Bool
  | file _ => true
  | directory entries => holds entries && everywhereAmong holds entries

/-- Whether that holds inside of all of some entries. -/
def everywhereAmong
    (holds : List (Name × Entry) → Bool) : List (Name × Entry) → Bool
  | [] => true
  | (_, entry) :: entries =>
      everywhere holds entry && everywhereAmong holds entries

end

theorem everywhere_directory_iff
    {holds : List (Name × Entry) → Bool}
    {entries : List (Name × Entry)} :
    everywhere holds (directory entries) = true ↔
      holds entries = true ∧
        ∀ child ∈ entries, everywhere holds child.2 = true := by
  have among : everywhereAmong holds entries = true ↔
      ∀ child ∈ entries, everywhere holds child.2 = true := by
    induction entries with
    | nil => simp [everywhereAmong]
    | cons entry entries inductionHypothesis =>
        simp [everywhereAmong, inductionHypothesis]
  rw [everywhere, Bool.and_eq_true, among]

/-- Whether the entries of every directory have different names. -/
def hasDistinctNames : Entry → Bool :=
  everywhere fun entries => decide (entries.map Prod.fst).Nodup

/-- Whether the names of the entries of every directory are read as different
texts. -/
def hasDistinctReadings : Entry → Bool :=
  everywhere fun entries => decide (entries.map fun entry => entry.1.read).Nodup

theorem hasDistinctNames_directory_iff {entries : List (Name × Entry)} :
    hasDistinctNames (directory entries) = true ↔
      (entries.map Prod.fst).Nodup ∧
        ∀ child ∈ entries, hasDistinctNames child.2 = true := by
  rw [hasDistinctNames, everywhere_directory_iff, decide_eq_true_eq]

theorem hasDistinctReadings_directory_iff {entries : List (Name × Entry)} :
    hasDistinctReadings (directory entries) = true ↔
      (entries.map fun entry => entry.1.read).Nodup ∧
        ∀ child ∈ entries, hasDistinctReadings child.2 = true := by
  rw [hasDistinctReadings, everywhere_directory_iff, decide_eq_true_eq]

end Entry

namespace FileSystem

/-- Whether all entries of a file system are named as entries can be. -/
def isWellNamed (system : FileSystem) : Bool :=
  system.root.isWellNamed

theorem hereditary_isWellNamed :
    Hereditary fun _ entry => entry.isWellNamed = true := by
  intro name entries wellNamed child inside
  exact (Entry.areWellNamed_iff.mp wellNamed child inside).2

/-- The entry at a path of a well-named file system is well named. -/
theorem isWellNamed_of_entry
    {system : FileSystem}
    (wellNamed : system.isWellNamed = true)
    {path : Path}
    {entry : Entry}
    (found : system.entry path = .ok entry) :
    entry.isWellNamed = true := by
  obtain ⟨-, holds⟩ := holds_of_entry hereditary_isWellNamed wellNamed found
  exact holds

theorem hereditary_everywhere (holds : List (Name × Entry) → Bool) :
    Hereditary fun _ entry => entry.everywhere holds = true :=
  fun _ _ inside => (Entry.everywhere_directory_iff.mp inside).2

/-- Whether the entries of every directory have different names. -/
def hasDistinctNames (system : FileSystem) : Bool :=
  system.root.hasDistinctNames

/-- Whether the names of the entries of every directory are read as different
texts. -/
def hasDistinctReadings (system : FileSystem) : Bool :=
  system.root.hasDistinctReadings

/-- The entry at a path of a file system with different names has different
names. -/
theorem hasDistinctNames_of_entry
    {system : FileSystem}
    (distinct : system.hasDistinctNames = true)
    {path : Path}
    {entry : Entry}
    (found : system.entry path = .ok entry) :
    entry.hasDistinctNames = true := by
  obtain ⟨-, holds⟩ := holds_of_entry (hereditary_everywhere _) distinct found
  exact holds

/-- The names in a directory are read as different texts if all names in the file
system are. -/
theorem nodup_readings
    {system : FileSystem}
    (distinct : system.hasDistinctReadings = true)
    {path : Path}
    {entries : List (Name × Entry)}
    (found : system.entry path = .ok (.directory entries)) :
    (entries.map fun entry => entry.1.read).Nodup := by
  obtain ⟨-, holds⟩ := holds_of_entry (hereditary_everywhere _) distinct found
  exact (Entry.hasDistinctReadings_directory_iff.mp holds).1

end FileSystem
end EnvTags
