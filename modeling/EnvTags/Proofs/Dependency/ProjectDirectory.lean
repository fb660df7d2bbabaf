import EnvTags.Proofs.Dependency.Location
import EnvTags.Proofs.Project.Identity

/-!
# The directory of a package and the package of a directory

A scan gives every directory of a project an import path, and a resolver finds the
directory of an import path. The two undo each other where names are texts: the path
given to a directory below the root leads back to that directory, however the way to
it is written and whatever is vendored or cached, and different directories have
different paths. So the package of a source file below the root leads back to the
file, unless it is a main package. A name that is no text is lost in an import path,
which has it as it is read.
-/

namespace EnvTags

namespace Project

/-- A scanned file of a project whose root is a directory is at the path of some
entry names below the root, and has what it declares. -/
theorem exists_names_of_mem_scan
    {system : FileSystem}
    (wellNamed : system.isWellNamed = true)
    {root : Path}
    {modulePath : String}
    {exclusions : Exclusions}
    {entries : List (Name × Entry)}
    (isDirectory : system.entry root = .ok (.directory entries))
    {files : List SourceFile}
    (scanned : scan system root modulePath exclusions = .ok files)
    {file : SourceFile}
    (present : file ∈ files) :
    ∃ names name, (∀ other ∈ names ++ [name], Path.IsEntryName other) ∧
      file.path = pathBelow root (names ++ [name]) ∧
      (∃ declared, Declares system file.path declared) ∧
      file.package =
        if isMainFile system file.path then modulePath
        else ImportPath.join modulePath names := by
  obtain ⟨paths, listed, read⟩ := scan_eq_ok_iff.mp scanned
  obtain ⟨path, inPaths, isScanned⟩ := exists_scanFile_of_mem read present
  obtain ⟨declared, declares, rfl⟩ := scanFile_eq_ok_iff.mp isScanned
  obtain ⟨names, name, areNames, rfl⟩ := exists_names_of_mem_sourceFiles
    wellNamed isDirectory listed inPaths
  refine ⟨names, name, areNames, rfl, ⟨declared, declares⟩, ?_⟩
  have below := (liesBelow_pathBelow root areNames).namesBelow_eq
  simp [sourceFile, Scope.identity, declares.isMainFile_eq, below]

end Project

namespace Dependency
namespace Resolver

variable {resolver : Resolver}

/-- The package of a directory of the project is looked for in the directory that
has the same names as they are read, whatever is vendored or cached. -/
theorem locate_join
    (unslashed : resolver.modulePath.toList.getLast? ≠ some '/')
    (system : FileSystem)
    {names : List Name}
    (nonempty : names ≠ [])
    (areNames : ∀ name ∈ names, Path.IsEntryName name) :
    resolver.locate system (ImportPath.join resolver.modulePath names) =
      .ok ((some (Project.pathBelow resolver.projectRoot
        ((names.map Name.read).map Name.text))).filter system.isDirectory) := by
  rw [locate_of_below (ImportPath.join_eq_append unslashed nonempty),
    directoryBelow, segments_joined nonempty areNames]
  rfl

/-- It is that directory if its names are texts. -/
theorem locate_join_of_areTexts
    (unslashed : resolver.modulePath.toList.getLast? ≠ some '/')
    {system : FileSystem}
    {names : List Name}
    (nonempty : names ≠ [])
    (areNames : ∀ name ∈ names, Path.IsEntryName name)
    (areTexts : ∀ name ∈ names, name.IsText)
    (isDirectory : system.isDirectory
      (Project.pathBelow resolver.projectRoot names) = true) :
    resolver.locate system (ImportPath.join resolver.modulePath names) =
      .ok (some (Project.pathBelow resolver.projectRoot names)) := by
  rw [locate_join unslashed system nonempty areNames, Name.map_text_read areTexts,
    Option.filter_some, if_pos isDirectory]

/-- The package of a directory leads back to it, however the way from the root to
the directory is written. -/
theorem exists_locate_join_of_isDirectory
    (unslashed : resolver.modulePath.toList.getLast? ≠ some '/')
    {system : FileSystem}
    {text : String}
    (stepsDown : (Path.ofString text).StepsDown)
    (nonempty : (Path.ofString text).components ≠ [])
    (isDirectory : system.isDirectory
      (resolver.projectRoot.join (Path.ofString text)) = true) :
    ∃ located,
      resolver.locate system (ImportPath.join resolver.modulePath
          (Path.ofString text).names) = .ok (some located) ∧
        located.components =
          (resolver.projectRoot.join (Path.ofString text)).components ∧
        system.entry located =
          system.entry (resolver.projectRoot.join (Path.ofString text)) := by
  have areNames : ∀ name ∈ (Path.ofString text).names, Path.IsEntryName name :=
    fun _ => Path.isEntryName_of_mem_names_ofString
  have namesNonempty : (Path.ofString text).names ≠ [] := by
    intro isNil
    rw [stepsDown.components_eq, isNil] at nonempty
    exact nonempty rfl
  have same : (resolver.projectRoot.join (Path.ofString text)).components =
      (Project.pathBelow resolver.projectRoot
        (Path.ofString text).names).components := by
    rw [Path.components_join _ stepsDown, stepsDown.components_eq,
      Project.components_pathBelow _ areNames]
  have sameEntry := FileSystem.entry_eq_of_isDirectory same isDirectory
  have alsoDirectory : system.isDirectory (Project.pathBelow
      resolver.projectRoot (Path.ofString text).names) = true := by
    rw [FileSystem.isDirectory, sameEntry]
    exact isDirectory
  exact ⟨_, locate_join_of_areTexts unslashed namesNonempty areNames
    (fun _ => Path.isText_of_mem_names_ofString) alsoDirectory, same.symm, sameEntry⟩

/-- The package of a scanned file leads back to the directory of the file, if that
is below the root, the names on the way to it are texts and the package is not a main
package. -/
theorem exists_locate_of_mem_scan
    (unslashed : resolver.modulePath.toList.getLast? ≠ some '/')
    {system : FileSystem}
    (wellNamed : system.isWellNamed = true)
    (isDirectory : system.isDirectory resolver.projectRoot = true)
    {exclusions : Project.Exclusions}
    {files : List SourceFile}
    (scanned : Project.scan system resolver.projectRoot resolver.modulePath
      exclusions = .ok files)
    {file : SourceFile}
    (present : file ∈ files)
    (notMain : Project.isMainFile system file.path = false)
    {directory : Path}
    (isParent : file.path.parent? = some directory)
    (isBelow : directory.components ≠ resolver.projectRoot.components)
    (areTexts : ∀ name ∈ Project.namesBelow resolver.projectRoot file.path,
      name.IsText) :
    ∃ located name,
      resolver.locate system file.package = .ok (some located) ∧
        located.components = directory.components ∧
        file.path = located.child name := by
  obtain ⟨entries, atRoot⟩ :=
    FileSystem.exists_directory_of_isDirectory isDirectory
  obtain ⟨names, name, areNames, isPath, ⟨declared, declares⟩, isPackage⟩ :=
    Project.exists_names_of_mem_scan wellNamed atRoot scanned present
  have below := Project.liesBelow_pathBelow resolver.projectRoot areNames
  rw [isPath, below.namesBelow_eq] at areTexts
  obtain ⟨areDirectories, parent, alsoParent, sameComponents⟩ := below
  rw [← isPath, isParent] at alsoParent
  obtain rfl := Option.some.inj alsoParent
  have nonempty : names ≠ [] := by
    rintro rfl
    exact isBelow (by simpa using sameComponents)
  have isChild : file.path =
      (Project.pathBelow resolver.projectRoot names).child name := by
    rw [isPath, Project.pathBelow_concat]
  rw [← Project.components_pathBelow _ areDirectories] at sameComponents
  refine ⟨Project.pathBelow resolver.projectRoot names, name, ?_,
    sameComponents.symm, isChild⟩
  -- The file was read, so its directory is there.
  obtain ⟨source, -, read, -⟩ := declares
  rw [isChild] at read
  have holdsFile := FileSystem.isDirectory_of_readText_child
    (Project.pathBelow_ne_empty _ nonempty areDirectories) read
  rw [isPackage, notMain, if_neg Bool.false_ne_true,
    locate_join_of_areTexts unslashed nonempty areDirectories areTexts holdsFile]

/-- Import paths and directories of a project determine each other as far as their
names are texts, if the module path has no slash at its end. The import path of a
directory below the root leads to the directory with the same names as they are read,
so back to the directory itself if they are texts. Two directories have one import
path exactly if their names are read alike. The package of a scanned file below the
root leads back to the directory of the file, unless it is a main package. None of
this depends on the vendor directory and the module cache. -/
theorem locate_join_roundTrip
    (resolver : Resolver)
    (unslashed : resolver.modulePath.toList.getLast? ≠ some '/') :
    (∀ (system : FileSystem) (relative : String),
      (Path.ofString relative).StepsDown →
      (Path.ofString relative).components ≠ [] →
      system.isDirectory
        (resolver.projectRoot.join (Path.ofString relative)) = true →
      ∃ located,
        resolver.locate system (ImportPath.join resolver.modulePath
            (Path.ofString relative).names) = .ok (some located) ∧
          located.components =
            (resolver.projectRoot.join (Path.ofString relative)).components ∧
          system.entry located =
            system.entry (resolver.projectRoot.join (Path.ofString relative))) ∧
    (∀ left right : String,
      (Path.ofString left).StepsDown →
      (Path.ofString right).StepsDown →
      ImportPath.join resolver.modulePath (Path.ofString left).names =
        ImportPath.join resolver.modulePath (Path.ofString right).names →
      (Path.ofString left).components = (Path.ofString right).components) ∧
    (∀ (system : FileSystem) (names : List Name),
      names ≠ [] →
      (∀ name ∈ names, Path.IsEntryName name) →
      resolver.locate system (ImportPath.join resolver.modulePath names) =
        .ok ((some (Project.pathBelow resolver.projectRoot
          ((names.map Name.read).map Name.text))).filter system.isDirectory)) ∧
    (∀ left right : List Name,
      (∀ name ∈ left, Path.IsEntryName name) →
      (∀ name ∈ right, Path.IsEntryName name) →
      (ImportPath.join resolver.modulePath left =
          ImportPath.join resolver.modulePath right ↔
        left.map Name.read = right.map Name.read)) ∧
    (∀ (system : FileSystem) (exclusions : Project.Exclusions)
      (files : List SourceFile),
      system.isWellNamed = true →
      system.isDirectory resolver.projectRoot = true →
      Project.scan system resolver.projectRoot resolver.modulePath exclusions =
        .ok files →
      ∀ file ∈ files, Project.isMainFile system file.path = false →
      ∀ directory, file.path.parent? = some directory →
      directory.components ≠ resolver.projectRoot.components →
      (∀ name ∈ Project.namesBelow resolver.projectRoot file.path,
        name.IsText) →
      ∃ located name,
        resolver.locate system file.package = .ok (some located) ∧
          located.components = directory.components ∧
          file.path = located.child name) := by
  refine ⟨?_, ?_, ?_, ?_, ?_⟩
  · intro system relative stepsDown nonempty isDirectory
    exact exists_locate_join_of_isDirectory unslashed stepsDown nonempty
      isDirectory
  · intro left right leftDown rightDown same
    have sameReading := (ImportPath.join_eq_join_iff
      (fun _ => Path.isEntryName_of_mem_names_ofString)
      (fun _ => Path.isEntryName_of_mem_names_ofString)).mp same
    have sameNames := congrArg (List.map Name.text) sameReading
    rw [Name.map_text_read fun _ => Path.isText_of_mem_names_ofString,
      Name.map_text_read fun _ => Path.isText_of_mem_names_ofString] at sameNames
    rw [leftDown.components_eq, rightDown.components_eq, sameNames]
  · intro system names nonempty areNames
    exact locate_join unslashed system nonempty areNames
  · intro left right leftNames rightNames
    exact ImportPath.join_eq_join_iff leftNames rightNames
  · intro system exclusions files wellNamed isDirectory scanned file present
      notMain directory isParent isBelow areTexts
    exact exists_locate_of_mem_scan unslashed wellNamed isDirectory scanned
      present notMain isParent isBelow areTexts

/-- A source file with one record. -/
def depotSource : String :=
  "package depot\n\ntype Depot struct \x7b\n\tKey string `env:\"KEY\"`\n\x7d\n"

/-! ## A package with a decoy -/

/-- A project with a package two directories below its root. The vendor directory
has a package with the same import path. -/
def depotSystem : FileSystem where
  root := .directory [("proj", .directory [
    ("internal", .directory [
      ("depot", .directory [("depot.go", .file (.text depotSource))])]),
    ("vendor", .directory [("example.com", .directory [("app", .directory [
      ("internal", .directory [("depot", .directory [])])])])])])]

/-- A resolver for the project. -/
def depotResolver : Resolver where
  projectRoot := ⟨"proj", []⟩
  modulePath := "example.com/app"
  vendorDirectory := ⟨"proj", ["vendor"]⟩
  moduleCache := none

/-- The file of the package. -/
def depotFile : SourceFile where
  path := ⟨"proj", ["internal", "depot", "depot.go"]⟩
  package := "example.com/app/internal/depot"
  imports := []
  records := [⟨⟨"proj", ["internal", "depot", "depot.go"]⟩,
    "example.com/app/internal/depot", "Depot",
    [⟨"Key", "string", "env:\"KEY\""⟩], []⟩]

theorem scan_depotSystem :
    Project.scan depotSystem ⟨"proj", []⟩ "example.com/app" ⟨"vendor", []⟩ =
      .ok [depotFile] := by
  decide +kernel

/-- The package is found in the project, from the file and from a way to its
directory that is written with pieces without effect, and the package above it is
another one. -/
theorem locate_depot :
    depotResolver.modulePath.toList.getLast? ≠ some '/' ∧
      (∃ located,
        depotResolver.locate depotSystem (ImportPath.join "example.com/app"
            (Path.ofString "internal//depot/.").names) = .ok (some located) ∧
          located.components = (Path.ofString "proj/internal/depot").components ∧
          depotSystem.entry located =
            depotSystem.entry (Path.ofString "proj/internal//depot/.")) ∧
      (∃ located name,
        depotResolver.locate depotSystem "example.com/app/internal/depot" =
            .ok (some located) ∧
          located.components = (Path.ofString "proj/internal/depot").components ∧
          depotFile.path = located.child name) ∧
      ImportPath.join "example.com/app" (Path.ofString "internal").names ≠
        ImportPath.join "example.com/app" (Path.ofString "").names := by
  have unslashed : depotResolver.modulePath.toList.getLast? ≠ some '/' := by
    decide +kernel
  obtain ⟨leadsBack, apart, -, -, fileLeadsBack⟩ :=
    locate_join_roundTrip depotResolver unslashed
  refine ⟨unslashed, ?_, ?_, ?_⟩
  · exact leadsBack depotSystem "internal//depot/." (by decide +kernel)
      (by decide +kernel) (by decide +kernel)
  · exact fileLeadsBack depotSystem ⟨"vendor", []⟩ [depotFile]
      (by decide +kernel) (by decide +kernel) scan_depotSystem depotFile
      List.mem_cons_self (by decide +kernel) ⟨"proj", ["internal", "depot"]⟩
      (by decide +kernel) (by decide +kernel) (by decide +kernel)
  · intro same
    have sameComponents := apart "internal" "" (by decide +kernel)
      (by decide +kernel) same
    exact absurd sameComponents (by decide +kernel)

/-! ## Packages that are not led back to -/

/-- A project with a source file in its root and one in a directory whose name is no
text. -/
def lostSystem : FileSystem where
  root := .directory [("proj", .directory [
    ("depot.go", .file (.text depotSource)),
    (Name.twins.1, .directory [("depot.go", .file (.text depotSource))])])]

/-- The import path of a directory whose name is no text leads nowhere, and another
directory would have the same one. The import path of the root leads nowhere
either. -/
theorem locate_lostSystem :
    ((Project.scan lostSystem ⟨"proj", []⟩ "example.com/app"
        ⟨"vendor", []⟩).map fun files =>
          files.map fun file => (file.path, file.package)) =
      .ok [(⟨"proj", ["depot.go"]⟩, "example.com/app"),
        (⟨"proj", [Name.twins.1, "depot.go"]⟩,
          ImportPath.join "example.com/app" [Name.twins.1])] ∧
    Project.isMainFile lostSystem ⟨"proj", ["depot.go"]⟩ = false ∧
    Project.isMainFile lostSystem ⟨"proj", [Name.twins.1, "depot.go"]⟩ = false ∧
    lostSystem.isDirectory ⟨"proj", [Name.twins.1]⟩ = true ∧
    depotResolver.locate lostSystem
      (ImportPath.join "example.com/app" [Name.twins.1]) = .ok none ∧
    ImportPath.join "example.com/app" [Name.twins.1] =
      ImportPath.join "example.com/app" [Name.twins.2] ∧
    depotResolver.locate lostSystem "example.com/app" =
      .error (.dependencyRootNotFound "example.com/app") := by
  decide +kernel

end Resolver
end Dependency
end EnvTags
