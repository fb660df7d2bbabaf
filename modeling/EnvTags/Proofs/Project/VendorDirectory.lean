import EnvTags.Config.Basic
import EnvTags.Proofs.Project.Selection

/-!
# Walks and the vendor directory

Dependencies are looked for in a directory that the configuration names by a
path below the root of the project, and a walk is to leave the files in there
out. It does so if the path is written plainly, and it fails to do so for other
spellings of the same path: a slash or a dot after a single name, or a dot in
front. A walk never enters hidden directories, so there the spelling does not
matter.
-/

namespace EnvTags
namespace Path

/-- A path leads below where it starts: it has an entry name and goes neither to
the root of the file system nor to a parent. -/
def LeadsBelow (path : Path) : Prop :=
  path.names ≠ [] ∧
    ∀ component ∈ path.components, component ≠ .root ∧ component ≠ .up

instance (path : Path) : Decidable (LeadsBelow path) :=
  inferInstanceAs (Decidable (_ ∧ _))

/-- A path lies under another one if its components go on after those of the
other one. -/
def LiesUnder (directory path : Path) : Prop :=
  ∃ component rest,
    path.components = directory.components ++ component :: rest

/-- Pieces that never step to a parent have the components of their names. -/
theorem map_name_filterMap_innerComponents
    {pieces : List Name}
    (notUp : Component.up ∉ innerComponents pieces) :
    ((innerComponents pieces).filterMap Component.name?).map Component.name =
      innerComponents pieces := by
  rw [List.map_filterMap]
  conv_rhs => rw [← List.filterMap_some (l := innerComponents pieces)]
  refine List.filterMap_congr ?_
  intro component inside
  obtain ⟨piece, -, rfl⟩ := List.mem_map.mp inside
  by_cases up : piece = ".."
  · subst up
    exact absurd inside notUp
  · simp [Component.ofPiece, up, Component.name?]

/-- A path that leads below is relative, and its pieces have the components of
its names. -/
theorem LeadsBelow.innerComponents_pieces
    {path : Path}
    (leadsBelow : path.LeadsBelow) :
    path.isAbsolute = false ∧
      innerComponents path.pieces = path.names.map Component.name := by
  obtain ⟨head, tail⟩ := path
  obtain ⟨named, steps⟩ := leadsBelow
  by_cases rooted : head = ""
  · subst rooted
    cases tail with
    | nil => exact absurd rfl named
    | cons piece pieces =>
        exact absurd rfl (steps .root (by simp [components])).1
  · refine ⟨by simp [isAbsolute, rooted], ?_⟩
    by_cases here : head = "."
    · -- A dot in front is a component but has no effect as a piece.
      subst here
      have notUp : Component.up ∉ innerComponents tail := by
        intro inside
        exact absurd rfl (steps .up (List.mem_cons_of_mem _ inside)).2
      exact (map_name_filterMap_innerComponents notUp).symm
    · have isComponents : (⟨head, tail⟩ : Path).components =
          innerComponents (head :: tail) := by
        simp [components, rooted, here, pieces]
      rw [isComponents] at steps
      rw [names, isComponents]
      refine (map_name_filterMap_innerComponents ?_).symm
      intro inside
      exact absurd rfl (steps .up inside).2

/-- A path that is continued by one that leads below goes on with its names. -/
theorem LeadsBelow.components_join
    {base relative : Path}
    (nonempty : base ≠ empty)
    (leadsBelow : relative.LeadsBelow) :
    (base.join relative).components =
      base.components ++ relative.names.map Component.name := by
  obtain ⟨notAbsolute, ofPieces⟩ := leadsBelow.innerComponents_pieces
  obtain ⟨tail, joined, split⟩ := join_eq_of_ne_empty nonempty notAbsolute
  have same := innerComponents_eq_of_slash split
  rw [joined, components_eq_of_ne_empty nonempty,
    components_eq_of_ne_empty (by simp [empty, pieces]), innerComponents_append,
    same, ofPieces, List.append_assoc]

/-- A path that leads below and does not start with a dot has only names. -/
theorem LeadsBelow.components_eq
    {path : Path}
    (leadsBelow : path.LeadsBelow)
    (notHere : Component.here ∉ path.components) :
    path.components = path.names.map Component.name := by
  refine StepsDown.components_eq ?_
  intro component inside
  obtain ⟨notRoot, notUp⟩ := leadsBelow.2 component inside
  cases component with
  | name text => simp [Component.name?]
  | root => exact absurd rfl notRoot
  | up => exact absurd rfl notUp
  | here => exact absurd inside notHere

/-- The text of an entry name is the path of that name. -/
theorem ofString_of_isEntryName
    {name : String}
    (isName : IsEntryName name) :
    (ofString name).components = [.name name] := by
  have single : ofString name = ⟨name, []⟩ := by
    have unslashed : '/' ∉ name.toList := isName.2
    rw [ofString, Text.parts_eq_singleton_iff.mpr unslashed]
    rfl
  rw [single, ← child_empty, components_child empty isName.1]
  rfl

end Path

namespace Project

/-- A vendor directory is written plainly: as nothing but its name, or by several
names and without a dot in front. -/
def IsPlain (vendor : String) : Prop :=
  (Path.ofString vendor).names = [vendor] ∨
    2 ≤ (Path.ofString vendor).names.length ∧
      Path.Component.here ∉ (Path.ofString vendor).components

instance (vendor : String) : Decidable (IsPlain vendor) :=
  inferInstanceAs (Decidable (_ ∨ _))

example : ∀ vendor ∈ ["vendor", "third_party/./go/"], IsPlain vendor := by
  decide +kernel

example : ∀ vendor ∈ ["vendor/", "vendor/.", "./vendor", "./third_party/go"],
    ¬IsPlain vendor := by
  decide +kernel

/-- The names of a vendor directory that is written plainly are recognized. -/
theorem isVendor_names_of_isPlain
    {vendor : String}
    {ignored : List Ignore}
    (leadsBelow : (Path.ofString vendor).LeadsBelow)
    (isPlain : IsPlain vendor) :
    Exclusions.isVendor ⟨vendor, ignored⟩ (Path.ofString vendor).names =
      true := by
  rcases isPlain with single | ⟨several, notHere⟩
  · have isName : Path.IsEntryName vendor :=
      Path.isEntryName_of_mem_names_ofString (by rw [single]; simp)
    simp [Exclusions.isVendor, Path.ofString_of_isEntryName isName, single]
  · have isComponents := leadsBelow.components_eq notHere
    have notSingle : (Path.ofString vendor).names.length ≠ 1 := by omega
    simp [Exclusions.isVendor, isComponents, notSingle]

/-- Entry names are only those of the vendor directory if that is written
plainly. -/
theorem isPlain_of_isVendor
    {vendor : String}
    {ignored : List Ignore}
    (named : (Path.ofString vendor).names ≠ [])
    {names : List Name}
    (areNames : ∀ name ∈ names, Path.IsEntryName name)
    (isVendor : Exclusions.isVendor ⟨vendor, ignored⟩ names = true) :
    IsPlain vendor := by
  unfold Exclusions.isVendor at isVendor
  simp only at isVendor
  split at isVendor
  · rw [beq_iff_eq] at isVendor
    have isName := areNames vendor (List.mem_of_getLast? isVendor)
    left
    rw [Path.names, Path.ofString_of_isEntryName isName]
    rfl
  · rename_i notSingle
    rw [beq_iff_eq] at isVendor
    right
    have isNames : (Path.ofString vendor).names = names := by
      rw [Path.names, ← isVendor, List.filterMap_map]
      exact List.filterMap_some
    have length : (Path.ofString vendor).names.length ≠ 1 := by
      rw [isNames]
      rwa [← isVendor, List.length_map] at notSingle
    have positive := List.length_pos_iff.mpr named
    refine ⟨by omega, ?_⟩
    rw [← isVendor]
    simp

/-- The path that walks leave out is not entered if it is hidden or written
plainly. -/
theorem not_kept_of_isPlain
    {vendor : String}
    {ignored : List Ignore}
    (leadsBelow : (Path.ofString vendor).LeadsBelow)
    (leftOut : (∃ name ∈ (Path.ofString vendor).names,
      Exclusions.isHidden name = true) ∨ IsPlain vendor)
    {entry : Entry}
    {first : Name}
    {rest : List Name} :
    ¬Kept ⟨vendor, ignored⟩ [] entry
      ((Path.ofString vendor).names ++ first :: rest) := by
  rintro ⟨⟨content, isFile⟩, -, isKept⟩
  rcases leftOut with ⟨name, inside, isHidden⟩ | isPlain
  · -- The way to the file has a leading part that ends in the hidden name.
    obtain ⟨before, after, split⟩ := List.append_of_mem inside
    have isPart : before ++ [name] <+:
        (Path.ofString vendor).names ++ first :: rest :=
      ⟨after ++ first :: rest, by simp [split]⟩
    obtain ⟨found, isFound⟩ := Entry.exists_below?_of_prefix isFile isPart
    have kept := isKept _ found (by simp) isPart isFound
    simpa [isHidden] using (excludes_eq_false_iff.mp kept).1
  · -- The vendor directory is on the way to the file, so it is a directory.
    have isPart : (Path.ofString vendor).names <+:
        (Path.ofString vendor).names ++ first :: rest :=
      List.prefix_append _ _
    rw [Entry.below?_append] at isFile
    obtain ⟨found, isFound, inFound⟩ := Option.bind_eq_some_iff.mp isFile
    have isDirectory : found.isDirectory = true := by
      cases found with
      | file content => simp [Entry.below?_cons, Entry.children] at inFound
      | directory entries => rfl
    have kept := isKept _ found leadsBelow.1 isPart isFound
    exact (excludes_eq_false_iff.mp kept).2.1
      ⟨isDirectory, isVendor_names_of_isPlain leadsBelow isPlain⟩

/-! ## A tree with a single file -/

/-- The tree of a single file with a row of names. -/
def lonely (names : List Name) : Entry :=
  Entry.put (.file (.text "")) names (.directory [])

theorem lonely_cons (name : Name) (names : List Name) :
    lonely (name :: names) = .directory [(name, lonely names)] := by
  simp [lonely, Entry.put, Entry.children, Entry.setChild]

theorem isWellNamed_lonely
    {names : List Name}
    (areNames : ∀ name ∈ names, Path.IsEntryName name) :
    (lonely names).isWellNamed = true := by
  induction names with
  | nil => rfl
  | cons name names inductionHypothesis =>
      obtain ⟨isName, rest⟩ := List.forall_mem_cons.mp areNames
      simp [lonely_cons, Entry.isWellNamed, Entry.areWellNamed, isName,
        inductionHypothesis rest]

theorem hasDistinctNames_lonely (names : List Name) :
    (lonely names).hasDistinctNames = true := by
  induction names with
  | nil => rfl
  | cons name names inductionHypothesis =>
      rw [lonely_cons, Entry.hasDistinctNames_directory_iff]
      simp [inductionHypothesis]

/-- A walk keeps the single file of a tree if no name on the way is hidden and
the vendor directory is not written plainly. -/
theorem kept_lonely
    {vendor : String}
    (named : (Path.ofString vendor).names ≠ [])
    (notPlain : ¬IsPlain vendor)
    {names : List Name}
    (areNames : ∀ name ∈ names, Path.IsEntryName name)
    (visible : ∀ name ∈ names, Exclusions.isHidden name = false)
    (isSource : names.getLast?.any isSourceName = true) :
    Kept ⟨vendor, []⟩ [] (lonely names) names := by
  refine ⟨⟨_, Entry.below?_put _ names _⟩, by simpa using isSource, ?_⟩
  intro part found nonempty isPart isFound
  rw [List.nil_append, excludes_eq_false_iff]
  refine ⟨?_, ?_, by simp⟩
  · have isLast := List.getLast?_eq_some_getLast nonempty
    simp [isLast, visible _ (isPart.subset (List.getLast_mem nonempty))]
  · rintro ⟨-, isVendor⟩
    exact notPlain (isPlain_of_isVendor named
      (fun name inside => areNames name (isPart.subset inside)) isVendor)

/-! ## Files in the vendor directory -/

/-- A listed file that lies in the vendor directory has been kept on a way that
goes through that directory. -/
theorem exists_kept_of_liesUnder
    {system : FileSystem}
    (wellNamed : system.isWellNamed = true)
    (distinct : system.hasDistinctNames = true)
    {root : Path}
    {exclusions : Exclusions}
    {files : List Path}
    (listed : sourceFiles system root exclusions = .ok files)
    {file : Path}
    (present : file ∈ files)
    {relative : Path}
    (leadsBelow : relative.LeadsBelow)
    (liesUnder : Path.LiesUnder (root.join relative) file) :
    ∃ entry first rest,
      Kept exclusions [] entry (relative.names ++ first :: rest) := by
  obtain ⟨component, others, goesOn⟩ := liesUnder
  cases atRoot : system.entry root with
  | error failure => simp [sourceFiles, atRoot] at listed
  | ok entry =>
      have nonempty := FileSystem.ne_empty_of_contains
        (FileSystem.contains_of_entry_eq_ok atRoot)
      rw [leadsBelow.components_join nonempty, List.append_assoc] at goesOn
      cases entry with
      | file content =>
          -- The root itself has no components after its own.
          rw [eq_root_of_mem_sourceFiles atRoot listed present] at goesOn
          have lengths := congrArg List.length goesOn
          simp at lengths
      | directory entries =>
          rw [sourceFiles_eq_ok_map atRoot] at listed
          obtain rfl := Except.ok.inj listed
          obtain ⟨names, inRows, rfl⟩ := List.mem_map.mp present
          have named := Entry.areWellNamed_walked
            (FileSystem.isWellNamed_of_entry wellNamed atRoot)
          obtain ⟨name, below, isRow, areNames⟩ := mem_filesAmong _ named inRows
          obtain rfl : names = name :: below := isRow
          rw [components_pathBelow root areNames, List.append_cancel_left_eq]
            at goesOn
          obtain ⟨start, final, split, isStart, isFinal⟩ :=
            List.map_eq_append_iff.mp goesOn
          obtain ⟨first, rest, rfl, -, -⟩ := List.map_eq_cons_iff.mp isFinal
          have sameStart : start = relative.names :=
            List.map_injective_iff.mpr (fun _ _ => Path.Component.name.inj) isStart
          have differ := FileSystem.hasDistinctNames_of_entry distinct atRoot
          rw [mem_filesAmong_walked_iff differ, split, sameStart] at inRows
          exact ⟨_, first, rest, inRows⟩

/-- If a vendor directory is neither hidden nor written plainly, then some walk
lists a file in it. -/
theorem exists_listed_of_not_isPlain
    {vendor : String}
    (leadsBelow : (Path.ofString vendor).LeadsBelow)
    (visible : ∀ name ∈ (Path.ofString vendor).names,
      Exclusions.isHidden name = false)
    (notPlain : ¬IsPlain vendor) :
    ∃ system : FileSystem, system.isWellNamed = true ∧
      system.hasDistinctNames = true ∧
      ∃ root files file, sourceFiles system root ⟨vendor, []⟩ = .ok files ∧
        file ∈ files ∧
        Path.LiesUnder (root.join (Path.ofString vendor)) file := by
  have areNames : ∀ name ∈ (Path.ofString vendor).names ++ [.text "a.go"],
      Path.IsEntryName name := by
    rw [List.forall_mem_append]
    exact ⟨fun name => Path.isEntryName_of_mem_names_ofString, by decide⟩
  have allVisible : ∀ name ∈ (Path.ofString vendor).names ++ [.text "a.go"],
      Exclusions.isHidden name = false := by
    rw [List.forall_mem_append]
    exact ⟨visible, by decide⟩
  have kept := kept_lonely leadsBelow.1 notPlain areNames allVisible
    (by rw [List.getLast?_concat]; decide)
  have wellNamed := isWellNamed_lonely areNames
  have distinct := hasDistinctNames_lonely
    ((Path.ofString vendor).names ++ [.text "a.go"])
  obtain ⟨first, rest, isRow⟩ := List.exists_cons_of_ne_nil
    (List.concat_ne_nil (.text "a.go") (Path.ofString vendor).names)
  have isTree : lonely ((Path.ofString vendor).names ++ [.text "a.go"]) =
      .directory [(first, lonely rest)] := by
    rw [isRow, lonely_cons]
  rw [isTree] at kept wellNamed distinct
  refine ⟨⟨.directory [(first, lonely rest)], []⟩, wellNamed, distinct,
    ⟨".", []⟩, _, pathBelow ⟨".", []⟩ ((Path.ofString vendor).names ++ [.text "a.go"]),
    sourceFiles_eq_ok_map rfl _,
    List.mem_map_of_mem ((mem_filesAmong_walked_iff distinct).mpr kept),
    .name "a.go", [], ?_⟩
  rw [components_pathBelow _ areNames, leadsBelow.components_join (by decide)]
  simp

/-- A walk through a project never lists a file in the vendor directory, whatever
the files, the root and the patterns to ignore, exactly if a name on the way to
that directory is hidden or the directory is written plainly. -/
theorem not_liesUnder_vendorDirectory_iff
    {vendor : String}
    (leadsBelow : (Path.ofString vendor).LeadsBelow) :
    (∀ (system : FileSystem) (root : Path) (ignored : List Ignore)
        (files : List Path),
        system.isWellNamed = true → system.hasDistinctNames = true →
        sourceFiles system root ⟨vendor, ignored⟩ = .ok files →
        ∀ file ∈ files,
          ¬Path.LiesUnder (root.join (Path.ofString vendor)) file) ↔
      (∃ name ∈ (Path.ofString vendor).names,
        Exclusions.isHidden name = true) ∨ IsPlain vendor := by
  constructor
  · intro avoids
    by_contra notLeftOut
    rw [not_or] at notLeftOut
    have visible : ∀ name ∈ (Path.ofString vendor).names,
        Exclusions.isHidden name = false := by
      simpa using notLeftOut.1
    obtain ⟨system, wellNamed, distinct, root, files, file, listed, present,
      liesUnder⟩ := exists_listed_of_not_isPlain leadsBelow visible notLeftOut.2
    exact avoids system root [] files wellNamed distinct listed file present
      liesUnder
  · intro leftOut system root ignored files wellNamed distinct listed file
      present liesUnder
    obtain ⟨entry, first, rest, kept⟩ := exists_kept_of_liesUnder wellNamed
      distinct listed present leadsBelow liesUnder
    exact not_kept_of_isPlain leadsBelow leftOut kept

/-- No walk lists a file in a vendor directory of two names, also if it is
written with a dot and a slash that have no effect. -/
theorem not_liesUnder_thirdParty :
    (Path.ofString "third_party/./go/").LeadsBelow ∧
      ∀ (system : FileSystem) (root : Path) (ignored : List Ignore)
        (files : List Path),
        system.isWellNamed = true → system.hasDistinctNames = true →
        sourceFiles system root ⟨"third_party/./go/", ignored⟩ = .ok files →
        ∀ file ∈ files,
          ¬Path.LiesUnder (root.join (Path.ofString "third_party/./go/")) file :=
  ⟨by decide +kernel,
    (not_liesUnder_vendorDirectory_iff (by decide +kernel)).mpr
      (.inr (by decide +kernel))⟩

/-- A project with a vendored dependency. -/
def vendoredProject : FileSystem where
  root := .directory [("proj", .directory [
    ("app.go", .file (.text "package app\n")),
    ("vendor", .directory [("github.com", .directory [("acme", .directory [
      ("lib", .directory [("lib.go", .file (.text "package lib\n"))])])])])])]

/-- The file of the vendored dependency. -/
def vendoredFile : Path :=
  ⟨"proj", ["vendor", "github.com", "acme", "lib", "lib.go"]⟩

/-- With a slash after its name, the vendor directory is the same and the
configuration is valid, but the walk enters it. -/
theorem liesUnder_vendorDirectory_vendoredProject :
    (Path.ofString "vendor/").LeadsBelow ∧
      Config.problem? { vendorDirectory := "vendor/" } = none ∧
      vendoredProject.isWellNamed = true ∧
      vendoredProject.hasDistinctNames = true ∧
      sourceFiles vendoredProject ⟨"proj", []⟩ ⟨"vendor/", []⟩ =
        .ok [⟨"proj", ["app.go"]⟩, vendoredFile] ∧
      Path.LiesUnder ((Path.mk "proj" []).join (Path.ofString "vendor/"))
        vendoredFile := by
  refine ⟨?_, ?_, ?_, ?_, ?_, .name "github.com",
    [.name "acme", .name "lib", .name "lib.go"], ?_⟩ <;> decide +kernel

end Project
end EnvTags
