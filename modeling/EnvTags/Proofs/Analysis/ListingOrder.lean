import EnvTags.Proofs.Analysis.Listing
import EnvTags.Proofs.Analysis.ModuleCache

/-!
# The order of listings

A system enumerates the entries of each directory in some order. Since no two
entries of a directory have one name, all orders give the same view of the file
system, in which everything is found and read as before. So they all give the
same analysis. Only where two versions of a dependency have names that are read alike
the order decides which one is used.
-/

namespace EnvTags

/-- The orders in which a system enumerates the entries of directories. -/
structure Enumeration where
  /-- The entries of the directory that some names lead to, in order. -/
  order : List Name → List (Name × Entry) → List (Name × Entry)
  /-- All entries are enumerated, each of them once. -/
  perm : ∀ names entries, (order names entries).Perm entries

namespace Entry

mutual

/-- A tree with the entries of every directory as they are enumerated, where some
names lead to the tree. -/
def enumerated (enumeration : Enumeration) (names : List Name) : Entry → Entry
  | file content => file content
  | directory entries =>
      directory (enumeration.order names
        (enumeratedEach enumeration names entries))

/-- Named entries, each of them enumerated inside. -/
def enumeratedEach (enumeration : Enumeration) (names : List Name) :
    List (Name × Entry) → List (Name × Entry)
  | [] => []
  | (name, entry) :: entries =>
      (name, enumerated enumeration (names ++ [name]) entry) ::
        enumeratedEach enumeration names entries

end

variable (enumeration : Enumeration)

theorem enumeratedEach_eq_map
    (names : List Name)
    (entries : List (Name × Entry)) :
    enumeratedEach enumeration names entries =
      entries.map fun child =>
        (child.1, enumerated enumeration (names ++ [child.1]) child.2) := by
  induction entries with
  | nil => rfl
  | cons entry entries inductionHypothesis =>
      rw [enumeratedEach, inductionHypothesis]
      rfl

/-- The order in which entries are enumerated cannot be seen in a view. -/
theorem seen_enumerated
    (view : Content → Content)
    (names : List Name)
    {entry : Entry}
    (distinct : hasDistinctNames entry = true) :
    seen view (enumerated enumeration names entry) = seen view entry := by
  induction entry using inductionOn generalizing names with
  | ofFile content => rfl
  | ofDirectory entries inductionHypothesis =>
      obtain ⟨differ, inside⟩ := hasDistinctNames_directory_iff.mp distinct
      -- Each entry has the same view as before, so only the order can differ.
      have sameViews : (enumeratedEach enumeration names entries).map
            (Prod.map id (seen view)) =
          entries.map (Prod.map id (seen view)) := by
        rw [enumeratedEach_eq_map, List.map_map]
        apply List.map_congr_left
        intro child present
        exact Prod.ext rfl (inductionHypothesis child present
          (names ++ [child.1]) (inside child present))
      have permuted : ((enumeration.order names
            (enumeratedEach enumeration names entries)).map
              (Prod.map id (seen view))).Perm
          (entries.map (Prod.map id (seen view))) :=
        sameViews ▸ (enumeration.perm names _).map _
      have stillDiffer : ((entries.map (Prod.map id (seen view))).map
          Prod.fst).Nodup := by
        rw [List.map_map]
        exact differ
      rw [enumerated, seen, seen, seenEach_eq_map, seenEach_eq_map,
        sortByName_eq_of_perm stillDiffer permuted.symm]

/-- Names that are read as different texts are so in every order. -/
theorem hasDistinctReadings_enumerated
    (names : List Name)
    {entry : Entry}
    (distinct : hasDistinctReadings entry = true) :
    hasDistinctReadings (enumerated enumeration names entry) = true := by
  induction entry using inductionOn generalizing names with
  | ofFile content => rfl
  | ofDirectory entries inductionHypothesis =>
      obtain ⟨differ, inside⟩ := hasDistinctReadings_directory_iff.mp distinct
      have permuted := enumeration.perm names
        (enumeratedEach enumeration names entries)
      rw [enumerated, hasDistinctReadings_directory_iff]
      rw [enumeratedEach_eq_map] at permuted ⊢
      constructor
      · refine (permuted.map _).nodup_iff.mpr ?_
        rwa [List.map_map]
      · intro child present
        obtain ⟨original, isOriginal, rfl⟩ :=
          List.mem_map.mp (permuted.mem_iff.mp present)
        exact inductionHypothesis original isOriginal _ (inside original isOriginal)

end Entry

namespace FileSystem

/-- A file system with the entries of every directory as they are enumerated. -/
def enumerated (system : FileSystem) (enumeration : Enumeration) : FileSystem :=
  { system with root := system.root.enumerated enumeration [] }

theorem seen_enumerated
    {system : FileSystem}
    (distinct : system.hasDistinctNames = true)
    (enumeration : Enumeration)
    (view : Content → Content) :
    (system.enumerated enumeration).seen view = system.seen view := by
  rw [seen, seen, enumerated, Entry.seen_enumerated enumeration view [] distinct]

/-- If no names are read alike, all orders list the same directories first. -/
theorem sameFirsts_enumerated
    {system : FileSystem}
    (distinct : system.hasDistinctNames = true)
    (apart : system.hasDistinctReadings = true)
    (first second : Enumeration) :
    (system.enumerated second).SameFirsts (system.enumerated first) :=
  .of_seen (Entry.hasDistinctReadings_enumerated second [] apart)
    (Entry.hasDistinctReadings_enumerated first [] apart)
    (((seen_enumerated distinct first id).trans
      (seen_enumerated distinct second id).symm))

end FileSystem

namespace Expansion

/-- There is no excuse. -/
def noExcuse : Excuse where
  ofError _ := False
  ofCache _ := False
  ofCache_of_suffix := fun _ excused => excused

end Expansion

namespace Analysis

/-- File systems that differ only in the order of listings have the same analyses, if
they list the same ones first of directories that are read alike. -/
theorem run_eq_of_seen_id
    {system other : FileSystem}
    (sameView : other.seen id = system.seen id)
    (sameFirsts : system.SameFirsts other)
    (request : Request) :
    run other request = run system request := by
  have sameTexts : ∀ paths, system.SameTexts other paths := by
    intro paths path _
    rw [← FileSystem.readText_seen_id, sameView, FileSystem.readText_seen_id]
  have scans : Expansion.ScansAgree Expansion.noExcuse system other := by
    intro cache directory package
    exact .inl (Dependency.scanPackage_congr sameView
      (fun paths _ => sameTexts paths) cache package)
  rcases run_eq_or_covers_of_scansAgree sameView sameFirsts (sameTexts _)
    (fun paths _ => sameTexts paths) scans with
    same | ⟨_, ⟨_, _, impossible⟩ | impossible⟩
  · exact same
  · exact impossible.elim
  · exact impossible.elim

/-- The result of an analysis does not depend on the orders in which the entries
of directories are enumerated, if no names in one directory are read alike, or at
least the same ones come first of directories that are. -/
theorem run_enumerated_eq
    {system : FileSystem}
    (distinct : system.hasDistinctNames = true)
    (first second : Enumeration)
    (apart : system.hasDistinctReadings = true ∨
      (system.enumerated second).SameFirsts (system.enumerated first))
    (request : Request) :
    run (system.enumerated first) request =
      run (system.enumerated second) request := by
  apply run_eq_of_seen_id
  · rw [FileSystem.seen_enumerated distinct, FileSystem.seen_enumerated distinct]
  · exact apart.elim
      (fun apart => FileSystem.sameFirsts_enumerated distinct apart first second) id

/-- Entries as they are listed. -/
def asListed : Enumeration where
  order _ entries := entries
  perm _ _ := .refl _

/-- Entries from the last to the first. -/
def backwards : Enumeration where
  order _ entries := entries.reverse
  perm _ entries := entries.reverse_perm

/-- The project with a vendored dependency has the same analysis if all its
directories are enumerated backwards. -/
theorem run_tracedProject_backwards :
    (tracedProject "package unused\n").hasDistinctNames = true ∧
      run ((tracedProject "package unused\n").enumerated backwards)
        ⟨⟨"proj", []⟩, {}, none⟩ = .ok tracedAnalysis := by
  have distinct : (tracedProject "package unused\n").hasDistinctNames = true := by
    decide
  refine ⟨distinct, ?_⟩
  rw [run_enumerated_eq distinct backwards asListed
    (.inl (by decide))]
  exact run_tracedProject

/-- A version of a dependency, with a default. -/
def kitVersion (value : String) : Entry :=
  .directory [("kit.go", .file (.text ("package kit\n\n" ++
    "type Settings struct \x7b\n\tKey string `env:\"KEY,default=" ++ value ++
    "\"`\n\x7d\n")))]

/-- A project with a dependency, of which a module cache has two versions whose
names are read alike. -/
def kitProject : FileSystem where
  root := .directory [
    ("proj", .directory [
      ("go.mod", .file (.text "module example.com/app\n")),
      ("config.go", .file (.text ("package app\n\nimport \"kit\"\n\n" ++
        "type Config struct \x7b\n\tKit kit.Settings `env:\",prefix=KIT_\"`\n" ++
        "\x7d\n")))]),
    ("mod", .directory [
      (.bytes [107, 105, 116, 64, 254] (by decide), kitVersion "one"),
      (.bytes [107, 105, 116, 64, 255] (by decide), kitVersion "two")])]

/-- The order decides which of the two versions is used. -/
theorem run_kitProject :
    let values (enumeration : Enumeration) :=
      (run (kitProject.enumerated enumeration)
        ⟨⟨"proj", []⟩, {}, some ⟨"mod", []⟩⟩).map fun analysis =>
          analysis.entries.map Variable.value
    kitProject.hasDistinctNames = true ∧
      values asListed = .ok ["one"] ∧ values backwards = .ok ["two"] := by
  decide +kernel

end Analysis
end EnvTags
