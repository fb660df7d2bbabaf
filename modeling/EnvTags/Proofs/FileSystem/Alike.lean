import EnvTags.Proofs.FileSystem.View

/-!
# Names that are read alike

Two entries of a directory have different names, but both may be read as one text if
one of the names is no text. Then a search by the text finds the one that the system
lists first. Two file systems with the same view list the same one first if all names
in them are read as different texts.
-/

namespace EnvTags
namespace Entry

/-- The first directory among some entries whose name is read as a text. -/
def firstRead? (text : String) (entries : List (Name × Entry)) : Option Name :=
  (entries.find? fun entry => entry.2.isDirectory && entry.1.read == text).map
    Prod.fst

theorem exists_directory
    {entry : Entry}
    (isDirectory : entry.isDirectory = true) :
    ∃ entries, entry = directory entries := by
  cases entry with
  | file content => cases isDirectory
  | directory entries => exact ⟨entries, rfl⟩

theorem mem_of_firstRead?
    {text : String}
    {entries : List (Name × Entry)}
    {name : Name}
    (isFirst : firstRead? text entries = some name) :
    ∃ inner, (name, directory inner) ∈ entries ∧ name.read = text := by
  obtain ⟨⟨_, content | inner⟩, found, rfl⟩ := Option.map_eq_some_iff.mp isFirst
  · simpa [isDirectory] using List.find?_some found
  · exact ⟨inner, List.mem_of_find?_eq_some found,
      by simpa [isDirectory] using List.find?_some found⟩

/-- One is found if there is any. -/
theorem exists_firstRead?
    {entries : List (Name × Entry)}
    {name : Name}
    {inner : List (Name × Entry)}
    (present : (name, directory inner) ∈ entries) :
    ∃ first, firstRead? name.read entries = some first := by
  apply Option.isSome_iff_exists.mp
  rw [firstRead?, Option.isSome_map, List.find?_isSome]
  exact ⟨_, present, by simp [isDirectory]⟩

/-- If all names are read as different texts, the directory that is found is the
only one. -/
theorem firstRead?_eq_some_iff
    {entries : List (Name × Entry)}
    (distinct : (entries.map fun entry => entry.1.read).Nodup)
    {text : String}
    {name : Name} :
    firstRead? text entries = some name ↔
      ∃ inner, (name, directory inner) ∈ entries ∧ name.read = text := by
  refine ⟨mem_of_firstRead?, ?_⟩
  rintro ⟨inner, present, rfl⟩
  obtain ⟨first, isFirst⟩ := exists_firstRead? present
  obtain ⟨other, alsoPresent, sameRead⟩ := mem_of_firstRead? isFirst
  have sameName : first = name := congrArg Prod.fst
    (List.inj_on_of_nodup_map distinct alsoPresent present sameRead)
  rw [isFirst, sameName]

/-- No directory that is read alike is listed before the one that is found. -/
theorem not_idxOf_lt_of_firstRead?
    {entries : List (Name × Entry)}
    (distinct : (entries.map Prod.fst).Nodup)
    {text : String}
    {first : Name}
    (isFirst : firstRead? text entries = some first)
    {name : Name}
    {inner : List (Name × Entry)}
    (present : (name, directory inner) ∈ entries)
    (isRead : name.read = text) :
    ¬(entries.map Prod.fst).idxOf name < (entries.map Prod.fst).idxOf first := by
  obtain ⟨⟨_, entry⟩, found, rfl⟩ := Option.map_eq_some_iff.mp isFirst
  obtain ⟨-, before, after, rfl, fails⟩ := List.find?_eq_some_iff_append.mp found
  have notBefore : name ∉ before.map Prod.fst := by
    intro inBefore
    obtain ⟨⟨_, other⟩, alsoPresent, rfl⟩ := List.mem_map.mp inBefore
    have same := List.inj_on_of_nodup_map distinct present
      (List.mem_append_left _ alsoPresent) rfl
    obtain rfl : directory inner = other := congrArg Prod.snd same
    simpa [isDirectory, isRead] using fails _ alsoPresent
  rw [List.map_append, List.idxOf_append_of_notMem notBefore, List.map_cons,
    List.idxOf_append]
  split
  · rename_i inBefore
    exact Nat.not_lt.mpr
      ((List.idxOf_lt_length_iff.mpr inBefore).le.trans (Nat.le_add_right _ _))
  · rw [List.idxOf_cons_self, Nat.zero_add]
    exact Nat.not_lt.mpr (Nat.le_add_right _ _)

/-- What is in a directory does not matter. -/
theorem firstRead?_map
    {change : Entry → Entry}
    (sameKind : ∀ entry, (change entry).isDirectory = entry.isDirectory)
    (text : String)
    (entries : List (Name × Entry)) :
    firstRead? text (entries.map (Prod.map id change)) =
      firstRead? text entries := by
  have sameTest : ((fun entry : Name × Entry =>
        entry.2.isDirectory && entry.1.read == text) ∘ Prod.map id change) =
      fun entry => entry.2.isDirectory && entry.1.read == text := by
    funext entry
    simp [sameKind]
  rw [firstRead?, firstRead?, List.find?_map, sameTest, Option.map_map]
  rfl

/-- The order does not matter if all names are read as different texts. -/
theorem firstRead?_eq_of_perm
    {left right : List (Name × Entry)}
    (distinct : (left.map fun entry => entry.1.read).Nodup)
    (permuted : left.Perm right)
    (text : String) :
    firstRead? text left = firstRead? text right := by
  have alsoDistinct := (permuted.map fun entry => entry.1.read).nodup distinct
  ext name
  rw [firstRead?_eq_some_iff distinct, firstRead?_eq_some_iff alsoDistinct]
  simp only [permuted.mem_iff]

end Entry

namespace FileSystem

/-- Of directories in one place whose names are read alike, two file systems list
the same one first. -/
def SameFirsts (system other : FileSystem) : Prop :=
  ∀ (path : Path) (text : String),
    (other.readDirectory path).map (Entry.firstRead? text) =
      (system.readDirectory path).map (Entry.firstRead? text)

/-- A view lists the same one first if no names are read alike. -/
theorem firstRead?_seen
    {system : FileSystem}
    (distinct : system.hasDistinctReadings = true)
    (view : Content → Content) :
    system.SameFirsts (system.seen view) := by
  intro path text
  rw [readDirectory_seen, readDirectory]
  rcases found : system.entry path with failure | content | entries
  · rfl
  · rfl
  · have sorted := Entry.perm_sortByName entries
    simp only [Except.map]
    rw [Entry.firstRead?_map (Entry.isDirectory_seen view),
      Entry.firstRead?_eq_of_perm (nodup_readings distinct found) sorted.symm]

/-- So do file systems with the same view. -/
theorem SameFirsts.of_seen
    {system other : FileSystem}
    (distinct : system.hasDistinctReadings = true)
    (otherDistinct : other.hasDistinctReadings = true)
    {view : Content → Content}
    (sameView : other.seen view = system.seen view) :
    system.SameFirsts other := by
  intro path text
  rw [← firstRead?_seen otherDistinct view path text, sameView,
    firstRead?_seen distinct view path text]

end FileSystem
end EnvTags
