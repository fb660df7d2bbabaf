import EnvTags.Proofs.Graph.Index
import EnvTags.Proofs.ImportPath
import EnvTags.Proofs.Project.Scan
import EnvTags.Proofs.Project.SourceFiles

/-!
# The identities of packages

The packages of a project are told apart by their directories, except that all
main packages have the module path as their identity, wherever they are. They
share it with the package in the root directory. Directories are not told apart
either if their names are read alike. The `home` of a record is what its package is
told apart by, and the graph of a project has one record for each home and name.
-/

namespace EnvTags

namespace Path

/-- A component with its name as it is read. -/
def Component.asRead : Component → Component
  | .name given => .name given.read
  | component => component

/-- The components of a path with their names as they are read. -/
def reading (path : Path) : List Component :=
  path.components.map Component.asRead

theorem map_asRead_name (names : List Name) :
    (names.map Component.name).map Component.asRead =
      (names.map Name.read).map fun name => .name name := by
  rw [List.map_map, List.map_map]
  rfl

end Path

namespace Project

/-- Whether the file at a path declares a main package. -/
def isMainFile (system : FileSystem) (path : Path) : Bool :=
  match system.readText path with
  | .error _ => false
  | .ok source =>
      match Go.parse source with
      | none => false
      | some tree => (Go.Declarations.ofTree tree).packageName == "main"

theorem Declares.isMainFile_eq
    {system : FileSystem}
    {path : Path}
    {declared : Go.Declarations}
    (declares : Declares system path declared) :
    isMainFile system path = (declared.packageName == "main") := by
  obtain ⟨source, tree, read, parsed, rfl⟩ := declares
  simp [isMainFile, read, parsed]

/-- What tells the package of a record of a project apart: the directory of the
record, as it is read, or the root of the project if the file declares a main
package. If the
module path ends with a slash, no directory has it as its import path, and the
main packages are apart from all others. -/
def home
    (system : FileSystem)
    (root : Path)
    (modulePath : String)
    (record : Record) : Option (List Path.Component) :=
  if isMainFile system record.file then
    if ImportPath.withoutTrailingSlashes modulePath = modulePath then
      some root.reading
    else none
  else some record.directory.reading

/-- The package of a record, by the names that lead to its directory. -/
structure Identified
    (system : FileSystem)
    (root : Path)
    (modulePath : String)
    (names : List Name)
    (record : Record) : Prop where
  /-- The names lead to the directory. -/
  below : LiesBelow root names record.file
  /-- Only a main package has the identity of another directory. -/
  package_eq : record.package =
    if isMainFile system record.file then modulePath
    else ImportPath.join modulePath names

section Scanned

variable {system : FileSystem} {root : Path} {modulePath : String}

theorem package_eq_of_declares
    {record : Record}
    {declared : Go.Declarations}
    (declares : Declares system record.file declared)
    (identity : record.package =
      (Scope.project root modulePath).identity record.file declared.packageName) :
    record.package =
      if isMainFile system record.file then modulePath
      else ImportPath.join modulePath (namesBelow root record.file) := by
  rw [identity, declares.isMainFile_eq]
  simp [Scope.identity]

/-- The records of a project whose root is a directory are identified by the
names of directories. -/
theorem exists_identified_of_mem_scan
    (wellNamed : system.isWellNamed = true)
    {entries : List (Name × Entry)}
    (isDirectory : system.entry root = .ok (.directory entries))
    {exclusions : Exclusions}
    {files : List SourceFile}
    (scanned : scan system root modulePath exclusions = .ok files)
    {record : Record}
    (present : record ∈ files.flatMap SourceFile.records) :
    ∃ names, Identified system root modulePath names record := by
  unfold scan at scanned
  cases listed : sourceFiles system root exclusions with
  | error error => simp [listed] at scanned
  | ok paths =>
      rw [listed] at scanned
      obtain ⟨inPaths, declared, declares, identity, -⟩ :=
        mem_records_of_scanFiles scanned present
      obtain ⟨names, below⟩ := exists_liesBelow_of_mem_sourceFiles wellNamed
        isDirectory listed inPaths
      refine ⟨names, below, ?_⟩
      rw [package_eq_of_declares declares identity, below.namesBelow_eq]

/-- The directory of an identified record is read by the names that lead to it. -/
theorem Identified.reading_directory
    {names : List Name}
    {record : Record}
    (identified : Identified system root modulePath names record) :
    record.directory.reading =
      root.reading ++ (names.map Name.read).map fun name => .name name := by
  rw [Path.reading, identified.below.directory_eq, List.map_append,
    Path.map_asRead_name]
  rfl

/-- Two identified records have one package exactly if they have one home. -/
theorem Identified.package_eq_iff
    {leftNames rightNames : List Name}
    {left right : Record}
    (leftIdentified : Identified system root modulePath leftNames left)
    (rightIdentified : Identified system root modulePath rightNames right) :
    left.package = right.package ↔
      home system root modulePath left = home system root modulePath right := by
  have leftAreNames := leftIdentified.below.1
  have rightAreNames := rightIdentified.below.1
  -- A main package has the identity of a directory only if that is the root.
  have mainHome : ∀ names : List Name,
      (∀ name ∈ names, Path.IsEntryName name) →
      (modulePath = ImportPath.join modulePath names ↔
        (if ImportPath.withoutTrailingSlashes modulePath = modulePath then
            some root.reading
          else none) =
          some (root.reading ++
            (names.map Name.read).map fun name => .name name)) := by
    intro names areNames
    rw [eq_comm, ImportPath.join_eq_modulePath_iff areNames]
    by_cases unslashed :
        ImportPath.withoutTrailingSlashes modulePath = modulePath
    · simp [unslashed]
    · simp [unslashed]
  rw [leftIdentified.package_eq, rightIdentified.package_eq, home, home,
    leftIdentified.reading_directory, rightIdentified.reading_directory]
  cases leftMain : isMainFile system left.file with
  | true =>
      cases rightMain : isMainFile system right.file with
      | true => simp
      | false => simpa using mainHome rightNames rightAreNames
  | false =>
      cases rightMain : isMainFile system right.file with
      | true =>
          simpa using (eq_comm.trans (mainHome leftNames leftAreNames)).trans eq_comm
      | false =>
          have nameInjective : Function.Injective fun name : String =>
              Path.Component.name name := by
            intro left right same
            exact Name.text.inj (Path.Component.name.inj same)
          simp only [Bool.false_eq_true, if_false, Option.some.injEq,
            List.append_cancel_left_eq]
          rw [List.map_inj_right fun _ _ same => nameInjective same]
          exact ImportPath.join_eq_join_iff leftAreNames rightAreNames

/-- Two records of a project have one package exactly if they have one home. -/
theorem package_eq_iff_home_eq
    (wellNamed : system.isWellNamed = true)
    {exclusions : Exclusions}
    {files : List SourceFile}
    (scanned : scan system root modulePath exclusions = .ok files)
    {left right : Record}
    (leftPresent : left ∈ files.flatMap SourceFile.records)
    (rightPresent : right ∈ files.flatMap SourceFile.records) :
    left.package = right.package ↔
      home system root modulePath left = home system root modulePath right := by
  cases atRoot : system.entry root with
  | error failure => simp [scan, sourceFiles, atRoot] at scanned
  | ok entry =>
      cases entry with
      | directory entries =>
          obtain ⟨leftNames, leftIdentified⟩ := exists_identified_of_mem_scan
            wellNamed atRoot scanned leftPresent
          obtain ⟨rightNames, rightIdentified⟩ := exists_identified_of_mem_scan
            wellNamed atRoot scanned rightPresent
          exact leftIdentified.package_eq_iff rightIdentified
      | file content =>
          -- The root is the only source file, so both records are from it.
          unfold scan at scanned
          cases listed : sourceFiles system root exclusions with
          | error error => simp [listed] at scanned
          | ok paths =>
              rw [listed] at scanned
              obtain ⟨leftPath, leftDeclared, leftDeclares, leftIdentity, -⟩ :=
                mem_records_of_scanFiles scanned leftPresent
              obtain ⟨rightPath, rightDeclared, rightDeclares,
                  rightIdentity, -⟩ :=
                mem_records_of_scanFiles scanned rightPresent
              have sameFile : left.file = right.file :=
                (eq_root_of_mem_sourceFiles atRoot listed leftPath).trans
                  (eq_root_of_mem_sourceFiles atRoot listed rightPath).symm
              rw [package_eq_of_declares leftDeclares leftIdentity,
                package_eq_of_declares rightDeclares rightIdentity, home, home,
                Record.directory, Record.directory, sameFile]
              exact ⟨fun _ => rfl, fun _ => rfl⟩

end Scanned

/-- What the graph of a project has one record for: a home and a name. -/
def place
    (system : FileSystem)
    (root : Path)
    (modulePath : String)
    (record : Record) : Option (List Path.Component) × String :=
  (home system root modulePath record, record.name)

/-- Two records of a project have one key exactly if they have one home and one
name, and its graph has exactly one record for each home and name that occurs.
Outside of main packages the home is the directory as it is read, so that there
records of different directories get in each other's way only if the names of the
directories are read alike. -/
theorem key_eq_iff_place_eq
    {system : FileSystem}
    (wellNamed : system.isWellNamed = true)
    {root : Path}
    {modulePath : String}
    {exclusions : Exclusions}
    {files : List SourceFile}
    (scanned : scan system root modulePath exclusions = .ok files) :
    (∀ left ∈ files.flatMap SourceFile.records,
      ∀ right ∈ files.flatMap SourceFile.records,
        left.key = right.key ↔
          place system root modulePath left =
            place system root modulePath right) ∧
      ((Graph.ofFiles files).records.map
        (place system root modulePath)).Nodup ∧
      ∀ placed, placed ∈ (Graph.ofFiles files).records.map
          (place system root modulePath) ↔
        placed ∈ (files.flatMap SourceFile.records).map
          (place system root modulePath) := by
  have keys : ∀ left ∈ files.flatMap SourceFile.records,
      ∀ right ∈ files.flatMap SourceFile.records,
        left.key = right.key ↔
          place system root modulePath left =
            place system root modulePath right := by
    intro left leftPresent right rightPresent
    rw [Record.key, Record.key, Key.mk.injEq, place, place, Prod.mk.injEq,
      package_eq_iff_home_eq wellNamed scanned leftPresent rightPresent]
  rw [Graph.records_ofFiles]
  refine ⟨keys, ?_, ?_⟩
  · have apart := Record.pairwise_firstBy Record.key
      (files.flatMap SourceFile.records)
    rw [List.Nodup, List.pairwise_map]
    refine apart.imp_of_mem ?_
    intro left right leftFirst rightFirst different samePlace
    exact different ((keys left (Record.mem_of_mem_firstBy leftFirst) right
      (Record.mem_of_mem_firstBy rightFirst)).mpr samePlace)
  · intro placed
    simp only [List.mem_map]
    constructor
    · rintro ⟨record, inGraph, rfl⟩
      exact ⟨record, Record.mem_of_mem_firstBy inGraph, rfl⟩
    · rintro ⟨record, present, rfl⟩
      obtain ⟨first, inGraph, sameKey⟩ :=
        Record.exists_mem_firstBy Record.key present
      refine ⟨first, inGraph, ?_⟩
      exact (keys first (Record.mem_of_mem_firstBy inGraph) record present).mp
        sameKey

/-! ## Two commands of one project -/

/-- A main file whose record refers to one that it does not declare. -/
def firstCommand : String :=
  "package main\n\ntype Config struct \x7b\n" ++
    "\tStore Store `env:\",prefix=DB_\"`\n\x7d\n"

/-- A main file with two records. -/
def secondCommand : String :=
  "package main\n\ntype Config struct \x7b\n\tPort int `env:\"PORT\"`\n\x7d\n\n" ++
    "type Store struct \x7b\n\tHost string `env:\"HOST\"`\n\x7d\n"

/-- A project with two commands in directories of their own. -/
def twoCommands : FileSystem where
  root := .directory [("proj", .directory [
    ("go.mod", .file (.text "module example.com/app\n")),
    ("cmd", .directory [
      ("first", .directory [("main.go", .file (.text firstCommand))]),
      ("second", .directory [("main.go", .file (.text secondCommand))])])])]

/-- A record of one of the two commands. -/
def commandRecord (command name : String) (fields : List Field) : Record where
  file := ⟨"proj", ["cmd", command, "main.go"]⟩
  package := "example.com/app"
  name := name
  fields := fields
  imports := []

/-- The record of the first command. -/
def firstConfig : Record :=
  commandRecord "first" "Config" [⟨"Store", "Store", "env:\",prefix=DB_\""⟩]

/-- The record of the second command with the same name. -/
def secondConfig : Record :=
  commandRecord "second" "Config" [⟨"Port", "int", "env:\"PORT\""⟩]

/-- The other record of the second command. -/
def secondStore : Record :=
  commandRecord "second" "Store" [⟨"Host", "string", "env:\"HOST\""⟩]

/-- The files of the two commands. -/
def commandFiles : List SourceFile :=
  [⟨firstConfig.file, "example.com/app", [], [firstConfig]⟩,
    ⟨secondStore.file, "example.com/app", [], [secondConfig, secondStore]⟩]

theorem scan_twoCommands :
    scan twoCommands ⟨"proj", []⟩ "example.com/app" ⟨"vendor", []⟩ =
      .ok commandFiles := by
  decide +kernel

/-- The two commands have one home. -/
theorem place_firstConfig_eq_secondConfig :
    twoCommands.isWellNamed = true ∧
      place twoCommands ⟨"proj", []⟩ "example.com/app" firstConfig =
        place twoCommands ⟨"proj", []⟩ "example.com/app" secondConfig :=
  ⟨by decide +kernel,
    ((key_eq_iff_place_eq (by decide +kernel) scan_twoCommands).1
      firstConfig (by decide +kernel) secondConfig (by decide +kernel)).mp rfl⟩

/-- Directories do not tell all records of a project apart: the two commands are
in different directories and have one key, and the graph has lost the second
one. -/
theorem key_eq_of_directory_ne_twoCommands :
    scan twoCommands ⟨"proj", []⟩ "example.com/app" ⟨"vendor", []⟩ =
        .ok commandFiles ∧
      firstConfig ∈ commandFiles.flatMap SourceFile.records ∧
      secondConfig ∈ commandFiles.flatMap SourceFile.records ∧
      firstConfig.directory.components ≠ secondConfig.directory.components ∧
      firstConfig.key = secondConfig.key ∧
      secondConfig ∉ (Graph.ofFiles commandFiles).records := by
  refine ⟨scan_twoCommands, ?_⟩
  decide +kernel

end Project
end EnvTags
