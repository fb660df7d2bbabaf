import EnvTags.Proofs.Analysis

/-!
# The scope of unqualified names

An unqualified name stands for a record of the package of its own record. That
package is the directory, except where main packages share their identity, except
for records that were found outside of the project although their package has the
module path, and except where the names of directories are read alike.
-/

namespace EnvTags
namespace Expansion

open Analysis (Scanned Request)

variable {system : FileSystem} {request : Request}

/-- A directory is read like those where the records of the graph with a package
are, if the package is below the module path and they are not from a main
package. -/
def HoldsPackage
    (scanned : Scanned system request)
    (directory : List Path.Component)
    (package : String) : Prop :=
  ∀ node ∈ scanned.setting.graph.records, node.package = package →
    Project.isMainFile system node.file = false →
    scanned.setting.resolver.projectPart? package ≠ none →
    node.directory.reading = directory.map Path.Component.asRead

/-- The directory located for an import holds the package. -/
theorem holdsPackage_of_locate
    (wellNamed : system.isWellNamed = true)
    (scanned : Scanned system request)
    {importPath : String}
    {directory : Path}
    (located : scanned.setting.resolver.locate system importPath =
      .ok (some directory)) :
    HoldsPackage scanned directory.components importPath := by
  intro node inGraph samePackage notMain below
  obtain ⟨names, identified⟩ := scanned.exists_identified wellNamed inGraph
  obtain ⟨rest, isPart⟩ := Option.ne_none_iff_exists'.mp below
  have isDirectory : directory =
      Project.pathBelow request.root ((names.map Name.read).map Name.text) := by
    have joined : importPath = ImportPath.join scanned.modulePath names := by
      rw [← samePackage, identified.package_eq, notMain]
      rfl
    have segments : Dependency.segments rest = names.map Name.read := by
      rw [joined] at isPart
      exact Dependency.Resolver.segments_of_projectPart?_join
        identified.below.1 isPart
    simp only [Dependency.Resolver.locate, isPart, Except.ok.injEq,
      Option.ite_none_right_eq_some, Option.some.injEq] at located
    rw [← located.2, Dependency.Resolver.directoryBelow, segments]
    rfl
  have areNames : ∀ name ∈ (names.map Name.read).map Name.text,
      Path.IsEntryName name := by
    simpa using fun name inside => (identified.below.1 name inside).read
  rw [isDirectory, Project.components_pathBelow request.root areNames,
    identified.reading_directory, Path.reading, List.map_append]
  simp [Path.Component.asRead]

/-- Every record is expanded in the directory that holds its package, and the
records found in a directory are declared there. -/
def scopeInvariant
    (wellNamed : system.isWellNamed = true)
    (scanned : Scanned system request) : Invariant scanned.setting where
  ofRecord record :=
    HoldsPackage scanned record.directory.components record.package
  ofFound directory record :=
    record.directory.components = directory ∧
      HoldsPackage scanned directory record.package
  ofScan directory package :=
    HoldsPackage scanned directory.components package
  graph_ofRecord := by
    intro record inGraph node nodeInGraph samePackage notMain below
    refine scanned.reading_eq_of_package_eq wellNamed nodeInGraph inGraph
      samePackage notMain ?_
    -- A main package has the module path, which is not below itself.
    obtain ⟨names, identified⟩ := scanned.exists_identified wellNamed inGraph
    by_contra main
    rw [identified.package_eq, if_pos (by simpa using main)] at below
    exact below (Dependency.Resolver.projectPart?_modulePath _)
  found_ofRecord := by
    rintro directory record ⟨rfl, holds⟩
    exact holds
  own_ofScan := by
    intro record holds
    exact holds
  imported_ofScan := by
    intro record imported directory _ _ located
    exact holdsPackage_of_locate wellNamed scanned located
  scan_ofFound := by
    intro directory package records holds read record present
    obtain ⟨samePackage, -⟩ := Dependency.mem_packageRecords read present
    rw [samePackage]
    exact ⟨Dependency.directory_of_mem_packageRecords read present, holds⟩

/-- What an unqualified name stands for has the name, and is in the graph or was
found in the directory of the record. -/
theorem nestedRecord_unqualified
    {setting : Setting}
    (invariant : Invariant setting)
    {state next : State}
    (known : invariant.OfCache state.cache)
    {record target : Record}
    (expandable : invariant.ofRecord record)
    {field : Field}
    {name : String}
    (unqualified : field.typeRef = .unqualified name)
    (lookup : nestedRecord setting state record field =
      (.ok (some target), next)) :
    target.name = name ∧
      ((target ∈ setting.graph.records ∧ target.package = record.package) ∨
        invariant.ofFound record.directory.components target) := by
  have step := nestedRecord_step setting state record field
  rw [lookup] at step
  cases step with
  | inGraph other isOther _ known =>
      obtain rfl := TypeRef.unqualified.inj (isOther.symm.trans unqualified)
      obtain ⟨present, key⟩ := Graph.find?_eq_some known
      rw [Record.key, Key.mk.injEq] at key
      exact ⟨key.2, .inl ⟨present, key.1⟩⟩
  | declared other isOther unknown records cache scanned _ isFirst =>
      obtain rfl := TypeRef.unqualified.inj (isOther.symm.trans unqualified)
      have found := (invariant.of_scanPackage known
        (invariant.own_ofScan record expandable) scanned).2 records rfl
      refine ⟨by simpa using List.find?_some isFirst, .inr ?_⟩
      exact found target (List.mem_of_find?_eq_some isFirst)
  | resolved package other qualified =>
      rw [unqualified] at qualified
      cases qualified

/-- Whenever the analysis of a project expands a field with an unqualified type,
the nested record has the name of the type and is declared in the directory of
the record with the field. There are three exceptions, and in all of them the nested
record is one of the graph that has the same package: one of the two records is
from a main package, or the record with the field is not one of the graph and its
package is not below the module path, or the directories are read alike. -/
theorem directory_eq_of_nests_unqualified
    (wellNamed : system.isWellNamed = true)
    (scanned : Scanned system request)
    {caller callee : Call}
    (reached : Call.Reached scanned.setting scanned.roots caller)
    {field : Field}
    (nests : Call.Nests scanned.setting caller field callee)
    {name : String}
    (unqualified : field.typeRef = .unqualified name) :
    callee.record.name = name ∧
      (callee.record.directory.components =
          caller.record.directory.components ∨
        (callee.record ∈ scanned.setting.graph.records ∧
          callee.record.package = caller.record.package ∧
          (Project.isMainFile system callee.record.file = true ∨
            Project.isMainFile system caller.record.file = true ∨
            (caller.record ∉ scanned.setting.graph.records ∧
              scanned.setting.resolver.projectPart? caller.record.package =
                none) ∨
            callee.record.directory.reading =
              caller.record.directory.reading))) := by
  have expandableRoots : ∀ record ∈ scanned.roots,
      (scopeInvariant wellNamed scanned).ofRecord record := by
    intro record isRoot
    exact (scopeInvariant wellNamed scanned).graph_ofRecord record
      ((scanned.setting.graph.sublist_roots _).subset isRoot)
  obtain ⟨known, holds⟩ := reached.invariant _ expandableRoots
  obtain ⟨middle, knownMiddle, lookup⟩ := nests.exists_lookup _ known holds
  obtain ⟨named, ⟨inGraph, samePackage⟩ | ⟨sameDirectory, -⟩⟩ :=
    nestedRecord_unqualified _ knownMiddle holds unqualified lookup
  · refine ⟨named, ?_⟩
    by_cases targetMain : Project.isMainFile system callee.record.file = true
    · exact .inr ⟨inGraph, samePackage, .inl targetMain⟩
    by_cases callerMain : Project.isMainFile system caller.record.file = true
    · exact .inr ⟨inGraph, samePackage, .inr (.inl callerMain)⟩
    rw [Bool.not_eq_true] at targetMain callerMain
    by_cases callerInGraph : caller.record ∈ scanned.setting.graph.records
    · have readAlike := scanned.reading_eq_of_package_eq wellNamed inGraph
        callerInGraph samePackage targetMain callerMain
      exact .inr ⟨inGraph, samePackage, .inr (.inr (.inr readAlike))⟩
    by_cases below :
        scanned.setting.resolver.projectPart? caller.record.package = none
    · exact .inr ⟨inGraph, samePackage,
        .inr (.inr (.inl ⟨callerInGraph, below⟩))⟩
    · have readAlike := holds callee.record inGraph samePackage targetMain below
      exact .inr ⟨inGraph, samePackage, .inr (.inr (.inr readAlike))⟩
  · exact ⟨named, .inl sameDirectory⟩

/-! ## Two commands of one project -/

/-- The project with two commands, scanned. -/
def scannedCommands : Scanned Project.twoCommands ⟨⟨"proj", []⟩, {}, none⟩ where
  modulePath := "example.com/app"
  files := Project.commandFiles
  modulePath_eq := by decide +kernel
  files_eq := Project.scan_twoCommands

/-- The field of the first command. -/
def storeField : Field :=
  ⟨"Store", "Store", "env:\",prefix=DB_\""⟩

/-- The call for the record of the first command. -/
def firstCommandCall : Call :=
  ⟨{}, "", Project.firstConfig⟩

/-- The call that is made for its field. -/
def storeCall : Call :=
  ⟨firstCommandCall.entered, "DB_", Project.secondStore⟩

theorem reached_firstCommandCall :
    Call.Reached scannedCommands.setting scannedCommands.roots
      firstCommandCall := by
  have split : scannedCommands.roots = [] ++ Project.firstConfig :: [] := by
    decide +kernel
  have expanded : expandAll (expandWithin scannedCommands.setting 0) [] {} =
      (.ok [], {}) := rfl
  exact .root split expanded

theorem nests_storeCall :
    Call.Nests scannedCommands.setting firstCommandCall storeField storeCall := by
  have fields : firstCommandCall.record.fields = [] ++ storeField :: [] := rfl
  have expanded : expandFields scannedCommands.setting
      (expandWithin scannedCommands.setting 0) firstCommandCall.namePrefix
      firstCommandCall.record [] firstCommandCall.entered =
        (.ok [], firstCommandCall.entered) := rfl
  have isContainer : ContainerField scannedCommands.setting storeField
      ⟨"", true, "DB_", ""⟩ := by
    unfold ContainerField
    decide +kernel
  have lookup : nestedRecord scannedCommands.setting firstCommandCall.entered
      firstCommandCall.record storeField =
        (.ok (some Project.secondStore), firstCommandCall.entered) := by
    decide +kernel
  have fresh : Project.secondStore.key ∉ firstCommandCall.entered.active := by
    decide +kernel
  exact .intro fields expanded isContainer lookup fresh

/-- The name of the type is looked for among the main packages. -/
theorem storeCall_scope :
    storeCall.record.name = "Store" ∧
      storeCall.record ∈ scannedCommands.setting.graph.records := by
  have unqualified : storeField.typeRef = .unqualified "Store" := by
    decide +kernel
  obtain ⟨named, sameDirectory | ⟨inGraph, -⟩⟩ :=
    directory_eq_of_nests_unqualified (by decide +kernel) scannedCommands
      reached_firstCommandCall nests_storeCall unqualified
  · exact absurd sameDirectory (by decide +kernel)
  · exact ⟨named, inGraph⟩

/-- The directory is not always the scope of an unqualified name: the analysis
expands the field of the first command into the record of the second one. -/
theorem directory_ne_of_nests_storeCall :
    Call.Reached scannedCommands.setting scannedCommands.roots
        firstCommandCall ∧
      Call.Nests scannedCommands.setting firstCommandCall storeField
        storeCall ∧
      storeField.typeRef = .unqualified "Store" ∧
      storeCall.record.directory.components ≠
        firstCommandCall.record.directory.components := by
  refine ⟨reached_firstCommandCall, nests_storeCall, ?_⟩
  decide +kernel

end Expansion
end EnvTags
