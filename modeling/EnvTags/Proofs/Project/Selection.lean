import Mathlib.Data.List.Induction
import EnvTags.Proofs.FileSystem.Below
import EnvTags.Proofs.Project.Walk

/-!
# Which source files a walk lists

A walk lists a source file exactly if neither the file nor a directory on the way
to it from the root is left out. It comes to the entries of a directory in the
order of their names and lists all that is below one of them before it goes on to
the next. So it lists files in the order of their paths, compared name by name,
and none of them twice.
-/

namespace EnvTags

namespace Entry

/-- A walk comes to entries with different names in the strict order of these
names. -/
theorem pairwise_walked
    {entries : List (Name × Entry)}
    (distinct : (entries.map Prod.fst).Nodup) :
    (walked entries).Pairwise fun left right => left.1 < right.1 := by
  have differ : (sortByName entries).Pairwise fun left right =>
      left.1 ≠ right.1 :=
    List.pairwise_map.mp
      (((perm_sortByName entries).map Prod.fst).nodup_iff.mpr distinct)
  refine List.pairwise_map.mpr (((inOrder_sortByName entries).and differ).imp ?_)
  rintro left right ⟨ascending, different⟩
  exact lt_of_le_of_ne ascending different

end Entry

namespace Project

/-! ## Entries that are not left out -/

/-- An entry is not left out if its name has no dot in front, it is not a vendor
directory, and no pattern ignores it. -/
theorem excludes_eq_false_iff
    {exclusions : Exclusions}
    {names : List Name}
    {entry : Entry} :
    exclusions.excludes names entry = false ↔
      names.getLast?.any Exclusions.isHidden = false ∧
        ¬(entry.isDirectory = true ∧ exclusions.isVendor names = true) ∧
        ∀ ignores ∈ exclusions.ignored, ignores names = false := by
  simp [Exclusions.excludes, and_assoc]

/-- From a tree that some names lead to, more names lead to a source file, and no
entry on the way is left out. -/
structure Kept
    (exclusions : Exclusions)
    (names : List Name)
    (entry : Entry)
    (below : List Name) : Prop where
  isFile : ∃ content, entry.below? below = some (.file content)
  isSource : (names ++ below).getLast?.any isSourceName = true
  isKept : ∀ part found, part ≠ [] → part <+: below →
    entry.below? part = some found →
      exclusions.excludes (names ++ part) found = false

theorem kept_file_iff
    {exclusions : Exclusions}
    {names below : List Name}
    {content : Content} :
    Kept exclusions names (.file content) below ↔
      below = [] ∧ names.getLast?.any isSourceName = true := by
  constructor
  · rintro ⟨⟨other, isFile⟩, isSource, -⟩
    cases below with
    | nil => exact ⟨rfl, by simpa using isSource⟩
    | cons name below => simp [Entry.below?_cons, Entry.children] at isFile
  · rintro ⟨rfl, isSource⟩
    refine ⟨⟨content, rfl⟩, by simpa using isSource, ?_⟩
    intro part found nonempty isPart
    exact absurd (List.prefix_nil.mp isPart) nonempty

/-- In a directory the first name leads to an entry that is not left out, and the
others lead on from there. -/
theorem kept_directory_iff
    {exclusions : Exclusions}
    {names below : List Name}
    {entries : List (Name × Entry)} :
    Kept exclusions names (.directory entries) below ↔
      ∃ name child rest, below = name :: rest ∧
        entries.lookup name = some child ∧
        exclusions.excludes (names ++ [name]) child = false ∧
        Kept exclusions (names ++ [name]) child rest := by
  constructor
  · rintro ⟨⟨content, isFile⟩, isSource, isKept⟩
    cases below with
    | nil => simp at isFile
    | cons name rest =>
        rw [Entry.below?_cons] at isFile
        obtain ⟨child, isChild, inChild⟩ := Option.bind_eq_some_iff.mp isFile
        have throughChild : ∀ part, (Entry.directory entries).below?
            (name :: part) = child.below? part := by
          intro part
          rw [Entry.below?_cons, isChild]
          rfl
        refine ⟨name, child, rest, rfl, isChild, ?_, ⟨content, inChild⟩, ?_, ?_⟩
        · exact isKept [name] child (by simp) (by simp) (throughChild [])
        · simpa using isSource
        · intro part found _ isPart isFound
          have kept := isKept (name :: part) found (by simp)
            (List.cons_prefix_cons.mpr ⟨rfl, isPart⟩)
            ((throughChild part).trans isFound)
          simpa using kept
  · rintro ⟨name, child, rest, rfl, isChild, childKept, isFile, isSource, isKept⟩
    have throughChild : ∀ part, (Entry.directory entries).below?
        (name :: part) = child.below? part := by
      intro part
      rw [Entry.below?_cons, Entry.children, isChild]
      rfl
    refine ⟨by simpa only [throughChild] using isFile, by simpa using isSource, ?_⟩
    intro part found nonempty isPart isFound
    obtain ⟨first, others, rfl⟩ := List.exists_cons_of_ne_nil nonempty
    obtain ⟨rfl, inRest⟩ := List.cons_prefix_cons.mp isPart
    rw [throughChild] at isFound
    cases others with
    | nil =>
        obtain rfl := Option.some.inj isFound
        exact childKept
    | cons second others =>
        have kept := isKept _ found (by simp) inRest isFound
        simpa using kept

/-! ## The rows of a walk -/

/-- A walk through a tree lists the files that are kept. -/
theorem mem_filesBelow_sorted_iff
    {exclusions : Exclusions}
    {entry : Entry}
    (distinct : entry.hasDistinctNames = true)
    {names row : List Name} :
    row ∈ filesBelow exclusions names entry.sorted ↔
      ∃ below, row = names ++ below ∧ Kept exclusions names entry below := by
  induction entry using Entry.inductionOn generalizing names row with
  | ofFile content =>
      rw [Entry.sorted, filesBelow]
      simp only [kept_file_iff]
      split
      · rename_i isSource
        simp [isSource]
      · rename_i notSource
        simp [notSource]
  | ofDirectory entries inductionHypothesis =>
      obtain ⟨differ, inside⟩ := Entry.hasDistinctNames_directory_iff.mp distinct
      have ofChild : ∀ name child, (name, child) ∈ entries →
          (row ∈ rowsOf exclusions names (name, child.sorted) ↔
            exclusions.excludes (names ++ [name]) child = false ∧
              ∃ rest, row = names ++ name :: rest ∧
                Kept exclusions (names ++ [name]) child rest) := by
        intro name child present
        have sameKind : exclusions.excludes (names ++ [name]) child.sorted =
            exclusions.excludes (names ++ [name]) child := by
          simp [Exclusions.excludes]
        have below : row ∈ filesBelow exclusions (names ++ [name]) child.sorted ↔
            _ := inductionHypothesis (name, child) present (inside _ present)
        rw [rowsOf, sameKind]
        cases exclusions.excludes (names ++ [name]) child with
        | true => simp
        | false =>
            simp only [Bool.false_eq_true, if_false, true_and]
            simpa using below
      rw [Entry.sorted_directory, filesBelow, filesAmong_eq_flatMap,
        List.mem_flatMap]
      simp only [kept_directory_iff]
      constructor
      · rintro ⟨⟨name, sorted⟩, inWalked, inRows⟩
        obtain ⟨⟨first, child⟩, present, same⟩ := List.mem_map.mp inWalked
        obtain ⟨rfl, rfl⟩ := Prod.mk.inj same
        rw [Entry.mem_sortByName] at present
        obtain ⟨childKept, rest, isRow, kept⟩ :=
          (ofChild first child present).mp inRows
        exact ⟨first :: rest, isRow, first, child, rest, rfl,
          Entry.lookup_of_mem differ present, childKept, kept⟩
      · rintro ⟨-, isRow, name, child, rest, rfl, isChild, childKept, kept⟩
        have present : (name, child) ∈ entries := by
          obtain ⟨before, after, rfl, -⟩ := List.lookup_eq_some_iff.mp isChild
          simp
        exact ⟨(name, child.sorted), Entry.mem_walked present,
          (ofChild name child present).mpr ⟨childKept, rest, isRow, kept⟩⟩

/-- A row of names stands before another one in the order of paths: name by name,
in the order of their bytes. -/
def Precedes (left right : List Name) : Prop :=
  left.map Name.row < right.map Name.row

/-- Rows that start alike are in the order of the first names that differ. -/
theorem precedes_of_lt
    {left right : Name}
    (below : left < right)
    (names leftRest rightRest : List Name) :
    Precedes (names ++ left :: leftRest) (names ++ right :: rightRest) := by
  unfold Precedes
  simp only [List.map_append, List.map_cons]
  exact List.append_left_lt
    (List.cons_lt_cons_iff.mpr (.inl below))

/-- A walk lists files in the strict order of their paths. -/
theorem pairwise_filesBelow_sorted
    (exclusions : Exclusions)
    {entry : Entry}
    (distinct : entry.hasDistinctNames = true)
    (names : List Name) :
    (filesBelow exclusions names entry.sorted).Pairwise Precedes := by
  induction entry using Entry.inductionOn generalizing names with
  | ofFile content =>
      rw [Entry.sorted, filesBelow]
      split
      · exact List.pairwise_singleton _ _
      · exact .nil
  | ofDirectory entries inductionHypothesis =>
      obtain ⟨differ, inside⟩ := Entry.hasDistinctNames_directory_iff.mp distinct
      rw [Entry.sorted_directory, filesBelow, filesAmong_eq_flatMap,
        List.pairwise_flatMap]
      have rowsStart : ∀ child ∈ Entry.walked entries,
          ∀ row ∈ rowsOf exclusions names child,
            ∃ rest, row = names ++ child.1 :: rest := by
        intro child inWalked row inRows
        obtain ⟨original, present, rfl⟩ := List.mem_map.mp inWalked
        rw [Entry.mem_sortByName] at present
        rw [rowsOf] at inRows
        split at inRows
        · cases inRows
        · obtain ⟨rest, isRow, -⟩ :=
            (mem_filesBelow_sorted_iff (inside original present)).mp inRows
          exact ⟨rest, by simpa using isRow⟩
      constructor
      · intro child inWalked
        obtain ⟨original, present, rfl⟩ := List.mem_map.mp inWalked
        rw [Entry.mem_sortByName] at present
        rw [rowsOf]
        split
        · exact .nil
        · exact inductionHypothesis original present (inside original present) _
      · refine (Entry.pairwise_walked differ).imp_of_mem ?_
        intro left right inLeft inRight below first ofLeft second ofRight
        obtain ⟨leftRest, rfl⟩ := rowsStart left inLeft first ofLeft
        obtain ⟨rightRest, rfl⟩ := rowsStart right inRight second ofRight
        exact precedes_of_lt below names leftRest rightRest

/-! ## The files of a project -/

/-- Below a root, a path of names leads to what the names lead to. -/
theorem entry_pathBelow_eq_ok_iff
    {system : FileSystem}
    {root : Path}
    {entry : Entry}
    (atRoot : system.entry root = .ok entry)
    {names : List Name}
    (areNames : ∀ name ∈ names, Path.IsEntryName name)
    {found : Entry} :
    system.entry (pathBelow root names) = .ok found ↔
      entry.below? names = some found := by
  induction names using List.reverseRecOn generalizing found with
  | nil => simp [pathBelow, atRoot]
  | append_singleton names name inductionHypothesis =>
      have before : ∀ other ∈ names, Path.IsEntryName other := by
        intro other inside
        exact areNames other (by simp [inside])
      have steps := (areNames name (by simp)).1
      have nonempty := pathBelow_ne_empty_of_ne_empty
        (FileSystem.ne_empty_of_contains
          (FileSystem.contains_of_entry_eq_ok atRoot)) names
      rw [pathBelow_concat, Entry.below?_append]
      constructor
      · intro isFound
        obtain ⟨entries, isDirectory⟩ :=
          FileSystem.exists_directory_of_entry_child nonempty isFound
        rw [FileSystem.entry_child_eq isDirectory steps] at isFound
        rw [(inductionHypothesis before).mp isDirectory]
        cases isChild : entries.lookup name with
        | none => simp [isChild] at isFound
        | some child =>
            obtain rfl : child = found := by simpa [isChild] using isFound
            simp [Entry.below?_cons, Entry.children, isChild]
      · intro isFound
        obtain ⟨middle, isMiddle, inMiddle⟩ := Option.bind_eq_some_iff.mp isFound
        rw [Entry.below?_cons] at inMiddle
        obtain ⟨child, isChild, last⟩ := Option.bind_eq_some_iff.mp inMiddle
        obtain rfl := Option.some.inj last
        cases middle with
        | file content => simp [Entry.children] at isChild
        | directory entries =>
            rw [FileSystem.entry_child_eq
              ((inductionHypothesis before).mpr isMiddle) steps]
            rw [Entry.children] at isChild
            simp [isChild]

/-- A row of names leads from the root of a project to a source file, and no
leading part of the row leads to something that is left out. -/
structure IsListed
    (system : FileSystem)
    (root : Path)
    (exclusions : Exclusions)
    (names : List Name) : Prop where
  areNames : ∀ name ∈ names, Path.IsEntryName name
  isFile : ∃ content, system.entry (pathBelow root names) = .ok (.file content)
  hasExtension : ∃ name, names.getLast? = some name ∧
    Path.extension? name.read = some "go"
  isVisible : ∀ part, part ≠ [] → part <+: names →
    ∀ name, part.getLast? = some name → Exclusions.isHidden name = false
  notVendored : ∀ part, part ≠ [] → part <+: names →
    ¬(system.isDirectory (pathBelow root part) = true ∧
      exclusions.isVendor part = true)
  notIgnored : ∀ part, part ≠ [] → part <+: names →
    ∀ ignores ∈ exclusions.ignored, ignores part = false

theorem isListed_iff_kept
    {system : FileSystem}
    {root : Path}
    {entries : List (Name × Entry)}
    (atRoot : system.entry root = .ok (.directory entries))
    {exclusions : Exclusions}
    {names : List Name}
    (areNames : ∀ name ∈ names, Path.IsEntryName name) :
    IsListed system root exclusions names ↔
      Kept exclusions [] (.directory entries) names := by
  have atPart : ∀ part, part <+: names → ∀ found,
      system.entry (pathBelow root part) = .ok found ↔
        (Entry.directory entries).below? part = some found := by
    intro part isPart found
    exact entry_pathBelow_eq_ok_iff atRoot fun name inside =>
      areNames name (isPart.subset inside)
  have kind : ∀ part, part <+: names → ∀ found,
      (Entry.directory entries).below? part = some found →
        system.isDirectory (pathBelow root part) = found.isDirectory := by
    intro part isPart found isFound
    rw [FileSystem.isDirectory, (atPart part isPart found).mpr isFound]
  constructor
  · rintro ⟨-, ⟨content, isFile⟩, ⟨name, isLast, extension⟩, isVisible,
      notVendored, notIgnored⟩
    refine ⟨⟨content, (atPart names List.prefix_rfl _).mp isFile⟩, ?_, ?_⟩
    · simp [isLast, isSourceName, sourceExtension, extension]
    · intro part found nonempty isPart isFound
      rw [List.nil_append, excludes_eq_false_iff, ← kind part isPart found isFound]
      refine ⟨?_, notVendored part nonempty isPart,
        notIgnored part nonempty isPart⟩
      have isLast := List.getLast?_eq_some_getLast nonempty
      simp [isLast, isVisible part nonempty isPart _ isLast]
  · rintro ⟨⟨content, isFile⟩, isSource, isKept⟩
    have partKept : ∀ part, part ≠ [] → part <+: names →
        ∃ found, (Entry.directory entries).below? part = some found ∧
          exclusions.excludes part found = false := by
      intro part nonempty isPart
      obtain ⟨found, isFound⟩ := Entry.exists_below?_of_prefix isFile isPart
      exact ⟨found, isFound, isKept part found nonempty isPart isFound⟩
    refine ⟨areNames, ⟨content, (atPart names List.prefix_rfl _).mpr isFile⟩,
      ?_, ?_, ?_, ?_⟩
    · simpa [isSourceName, sourceExtension, Option.any_eq_true] using isSource
    · intro part nonempty isPart name isLast
      obtain ⟨found, isFound, kept⟩ := partKept part nonempty isPart
      have visible := (excludes_eq_false_iff.mp kept).1
      simpa [isLast] using visible
    · intro part nonempty isPart
      obtain ⟨found, isFound, kept⟩ := partKept part nonempty isPart
      rw [kind part isPart found isFound]
      exact (excludes_eq_false_iff.mp kept).2.1
    · intro part nonempty isPart
      obtain ⟨found, isFound, kept⟩ := partKept part nonempty isPart
      exact (excludes_eq_false_iff.mp kept).2.2

/-- Different rows of names have different paths. -/
theorem pathBelow_inj
    {root : Path}
    {left right : List Name}
    (leftNames : ∀ name ∈ left, Path.IsEntryName name)
    (rightNames : ∀ name ∈ right, Path.IsEntryName name)
    (same : pathBelow root left = pathBelow root right) :
    left = right := by
  have sameComponents := congrArg Path.components same
  rw [components_pathBelow root leftNames, components_pathBelow root rightNames,
    List.append_cancel_left_eq] at sameComponents
  exact List.map_injective_iff.mpr (fun _ _ => Path.Component.name.inj)
    sameComponents

/-- A walk through a directory lists its files row by row. -/
theorem sourceFiles_eq_ok_map
    {system : FileSystem}
    {root : Path}
    {entries : List (Name × Entry)}
    (isDirectory : system.entry root = .ok (.directory entries))
    (exclusions : Exclusions) :
    sourceFiles system root exclusions =
      .ok ((filesAmong exclusions [] (Entry.walked entries)).map
        (pathBelow root)) := by
  rw [sourceFiles, isDirectory]
  simp only [Entry.sorted_directory, filesOf]

/-- A walk through a directory lists the rows that are kept. -/
theorem mem_filesAmong_walked_iff
    {exclusions : Exclusions}
    {entries : List (Name × Entry)}
    (distinct : (Entry.directory entries).hasDistinctNames = true)
    {names : List Name} :
    names ∈ filesAmong exclusions [] (Entry.walked entries) ↔
      Kept exclusions [] (.directory entries) names := by
  have rows : names ∈ filesBelow exclusions [] (Entry.directory entries).sorted ↔
      _ := mem_filesBelow_sorted_iff distinct
  rw [Entry.sorted_directory, filesBelow] at rows
  simpa using rows

/-- The source files of a project are exactly the files with the extension of
source files below its root for which no leading part of the way, and not the
whole, is hidden, a vendor directory or ignored. They are listed in the strict
order of their ways, name by name and byte by byte, and none of them twice. The
root itself is not tested. -/
theorem sourceFiles_eq_isListed
    {system : FileSystem}
    (wellNamed : system.isWellNamed = true)
    (distinct : system.hasDistinctNames = true)
    {root : Path}
    {entries : List (Name × Entry)}
    (isDirectory : system.entry root = .ok (.directory entries))
    (exclusions : Exclusions) :
    ∃ rows : List (List Name),
      sourceFiles system root exclusions = .ok (rows.map (pathBelow root)) ∧
        (∀ names, names ∈ rows ↔ IsListed system root exclusions names) ∧
        rows.Pairwise Precedes ∧
        (rows.map (pathBelow root)).Nodup := by
  have differ := FileSystem.hasDistinctNames_of_entry distinct isDirectory
  have named : Entry.areWellNamed (Entry.walked entries) = true :=
    Entry.areWellNamed_walked
      (FileSystem.isWellNamed_of_entry wellNamed isDirectory)
  have areNames : ∀ names ∈ filesAmong exclusions [] (Entry.walked entries),
      ∀ name ∈ names, Path.IsEntryName name := by
    intro names inRows
    obtain ⟨first, below, rfl, areNames⟩ := mem_filesAmong _ named inRows
    simpa using areNames
  have inOrder : (filesAmong exclusions [] (Entry.walked entries)).Pairwise
      Precedes := by
    have pairwise := pairwise_filesBelow_sorted exclusions differ []
    rwa [Entry.sorted_directory, filesBelow] at pairwise
  refine ⟨filesAmong exclusions [] (Entry.walked entries),
    sourceFiles_eq_ok_map isDirectory exclusions, ?_, inOrder, ?_⟩
  · intro names
    rw [mem_filesAmong_walked_iff differ]
    constructor
    · intro kept
      have inRows := (mem_filesAmong_walked_iff differ).mpr kept
      exact (isListed_iff_kept isDirectory (areNames names inRows)).mpr kept
    · intro isListed
      exact (isListed_iff_kept isDirectory isListed.areNames).mp isListed
  · refine List.Nodup.map_on ?_ (inOrder.imp ?_)
    · intro left inLeft right inRight
      exact pathBelow_inj (areNames left inLeft) (areNames right inRight)
    · rintro left right precedes rfl
      exact List.lt_irrefl _ precedes

/-- A project with a hidden file, a vendor directory and an ignored file, listed
by the system in some order. -/
def mixedProject : FileSystem where
  root := .directory [("proj", .directory [
    ("a.go", .file (.text "package app\n")),
    ("vendor", .directory [("lib.go", .file (.text "package lib\n"))]),
    ("a", .directory [
      ("README", .file (.text "notes\n")),
      ("vendor", .directory [("lib.go", .file (.text "package lib\n"))]),
      ("b.go", .file (.text "package a\n"))]),
    ("a-b", .directory [
      ("old_gen.go", .file (.text "package old\n")),
      ("c.go", .file (.text "package old\n"))]),
    (".hidden.go", .file (.text "package app\n"))])]

/-- What is left out of the project. -/
def mixedExclusions : Exclusions where
  vendorDirectory := "vendor"
  ignored := (Glob.ofString? "**/*_gen.go").toList

/-- The files of the project are in the order of their ways and not of the texts
of their paths. -/
theorem exists_isListed_mixedProject :
    sourceFiles mixedProject ⟨"proj", []⟩ mixedExclusions =
        .ok [⟨"proj", ["a", "b.go"]⟩, ⟨"proj", ["a-b", "c.go"]⟩,
          ⟨"proj", ["a.go"]⟩] ∧
      ∃ rows : List (List Name),
        sourceFiles mixedProject ⟨"proj", []⟩ mixedExclusions =
            .ok (rows.map (pathBelow ⟨"proj", []⟩)) ∧
          (∀ names, names ∈ rows ↔
            IsListed mixedProject ⟨"proj", []⟩ mixedExclusions names) ∧
          rows.Pairwise Precedes ∧
          (rows.map (pathBelow ⟨"proj", []⟩)).Nodup :=
  ⟨by decide +kernel,
    sourceFiles_eq_isListed (by decide +kernel) (by decide +kernel) rfl
      mixedExclusions⟩

end Project
end EnvTags
