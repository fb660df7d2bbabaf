import EnvTags.Proofs.Dependency.VisitedPackage
import EnvTags.Proofs.Expansion.Invariant

/-!
# Types that the graph lacks

A type that is not in the graph is looked for in the directory of the record with
the field. In a directory of the project that the walk visits this finds nothing
new: what is declared there, and first, is in the graph already. The directory may
have been scanned before, for another package, but not for other records.
-/

namespace EnvTags
namespace Expansion

/-- Whatever is found in a directory is declared there. -/
def declaredInvariant (setting : Setting) : Invariant setting where
  ofRecord _ := True
  ofFound components record := ∃ directory package records,
    directory.components = components ∧
      Dependency.packageRecords setting.system directory package =
        .ok records ∧
      record ∈ records
  ofScan _ _ := True
  graph_ofRecord _ _ := trivial
  found_ofRecord _ _ _ := trivial
  own_ofScan _ _ := trivial
  imported_ofScan _ _ _ _ _ _ := trivial
  scan_ofFound directory package records _ read _ present :=
    ⟨directory, package, records, rfl, read, present⟩

section Own

variable
  {setting : Setting}
  {root : Path}
  {modulePath : String}
  {files : List SourceFile}
  (wellNamed : setting.system.isWellNamed = true)
  (distinct : setting.system.hasDistinctNames = true)
  (own : Project.VisitedPackage setting.system root modulePath files)
include wellNamed distinct own

/-- The directory of the package can be scanned at any time, and what is found
then is in the graph. -/
theorem exists_scanPackage
    {cache : Dependency.ScanCache}
    (known : (declaredInvariant setting).OfCache cache)
    {directory : Path}
    (same : directory.components = own.directory.components)
    (package : String) :
    ∃ records next,
      Dependency.scanPackage setting.system cache directory package =
          (.ok records, next) ∧
        ∀ record ∈ records,
          (Graph.ofFiles files).find? ⟨own.package, record.name⟩ ≠ none := by
  unfold Dependency.scanPackage
  cases before : cache.records? directory with
  | some records =>
      refine ⟨records, cache, rfl, ?_⟩
      intro record present
      obtain ⟨other, otherPackage, others, sameOther, read, inOthers⟩ :=
        known _ (Dependency.ScanCache.mem_of_records? before) record present
      exact own.find?_ne_none_of_mem wellNamed distinct (sameOther.trans same)
        read inOthers
  | none =>
      obtain ⟨originals, readOwn, -⟩ :=
        own.exists_packageRecords wellNamed distinct
      have read := Dependency.packageRecords_eq_map_asIn same.symm readOwn package
      rw [read]
      refine ⟨_, _, rfl, ?_⟩
      intro record present
      exact own.find?_ne_none_of_mem wellNamed distinct same read present

/-- A record of the directory of the package is given what the graph has. What it
is given from elsewhere is in the graph too, for the package. -/
theorem exists_nestedRecord
    (isGraph : setting.graph = Graph.ofFiles files)
    {state : State}
    (known : (declaredInvariant setting).OfCache state.cache)
    {record : Record}
    (same : record.directory.components = own.directory.components)
    {field : Field}
    {name : String}
    (unqualified : field.typeRef = .unqualified name) :
    ∃ answer,
      (nestedRecord setting state record field).1 = .ok answer ∧
        (setting.graph.find? ⟨record.package, name⟩ = none → answer ≠ none →
          setting.graph.find? ⟨own.package, name⟩ ≠ none) ∧
        (record.package = own.package →
          answer = setting.graph.find? ⟨own.package, name⟩) := by
  simp only [nestedRecord, unqualified, sibling]
  cases inGraph : setting.graph.find? ⟨record.package, name⟩ with
  | some found =>
      refine ⟨some found, rfl, by simp, ?_⟩
      rintro isPackage
      rw [← isPackage, inGraph]
  | none =>
      obtain ⟨records, next, scanned, inOwn⟩ :=
        exists_scanPackage wellNamed distinct own known same record.package
      rw [← isGraph] at inOwn
      simp only [scanned]
      cases found : records.find? fun candidate => candidate.name = name with
      | none =>
          refine ⟨none, rfl, by simp, ?_⟩
          rintro isPackage
          rw [← isPackage, inGraph]
      | some target =>
          have alsoInGraph := inOwn target (List.mem_of_find?_eq_some found)
          have isName : target.name = name := by
            simpa using List.find?_some found
          rw [isName] at alsoInGraph
          refine ⟨some target, rfl, fun _ _ => alsoInGraph, ?_⟩
          rintro isPackage
          rw [← isPackage, inGraph] at alsoInGraph
          exact absurd rfl alsoInGraph

end Own

/-- The graph of a project and the scan of a directory find the same records, for
a directory below the root that is visited and whose source files are neither
hidden nor in main packages, if no pattern is ignored and no other directory is read
alike. All files of the directory have one package. The graph has a record of that
package with a name exactly if a first scan of the directory finds one, and the two
agree. Hence an expansion never finds a type in the directory that the graph lacks in
that package. -/
theorem graph_agrees_with_scanPackage
    {system : FileSystem}
    (wellNamed : system.isWellNamed = true)
    (distinct : system.hasDistinctNames = true)
    {root : Path}
    {modulePath : String}
    {files : List SourceFile}
    (own : Project.VisitedPackage system root modulePath files) :
    (∀ file ∈ files, ∀ parent, file.path.parent? = some parent →
      parent.components = own.directory.components →
      file.package = own.package) ∧
    (∀ directory, directory.components = own.directory.components →
      ∀ cache : Dependency.ScanCache, cache.records? directory = none →
      ∃ records,
        Dependency.scanPackage system cache directory own.package =
            (.ok records, (directory.components, records) :: cache) ∧
          ∀ name,
            ((Graph.ofFiles files).find? ⟨own.package, name⟩ ≠ none ↔
              ∃ record ∈ records, record.name = name) ∧
            ∀ found,
              (Graph.ofFiles files).find? ⟨own.package, name⟩ = some found →
              ∀ record ∈ records, record.name = name →
                record.file.components = found.file.components ∧
                  record.fields = found.fields ∧
                  record.imports = found.imports ∧
                  record.key = found.key) ∧
    (∀ setting : Setting, setting.system = system →
      setting.graph = Graph.ofFiles files →
      ∀ roots caller, Call.Reached setting roots caller →
      caller.record.directory.components = own.directory.components →
      ∀ field state, Call.Visits setting caller field state →
      ∀ name, field.typeRef = .unqualified name →
      ∃ answer,
        (nestedRecord setting state caller.record field).1 = .ok answer ∧
          (setting.graph.find? ⟨caller.record.package, name⟩ = none →
            answer ≠ none →
            setting.graph.find? ⟨own.package, name⟩ ≠ none) ∧
          (caller.record.package = own.package →
            answer = setting.graph.find? ⟨own.package, name⟩)) := by
  refine ⟨?_, ?_, ?_⟩
  · intro file present parent isParent same
    rw [own.package_eq_iff wellNamed distinct present]
    refine Project.LiesBelow.namesBelow_eq
      ⟨own.areNames wellNamed, parent, isParent, ?_⟩
    rw [same, Project.VisitedPackage.directory,
      Project.components_pathBelow root (own.areNames wellNamed)]
  · intro directory same cache unscanned
    exact own.exists_records wellNamed distinct same unscanned
  · rintro setting rfl isGraph roots caller reached same field state visits name
      unqualified
    obtain ⟨known, -⟩ := reached.invariant (declaredInvariant setting)
      fun _ _ => trivial
    exact exists_nestedRecord wellNamed distinct own isGraph
      (visits.ofCache _ known trivial) same unqualified

/-! ## A record that is declared twice -/

/-- A source file whose record has a field of a type that is declared nowhere. -/
def firstTwin : String :=
  "package twin\n\ntype Twin struct \x7b\n" ++
    "\tGone Gone `env:\",prefix=GONE_\"`\n\x7d\n"

/-- A source file that declares the record again. -/
def secondTwin : String :=
  "package twin\n\ntype Twin struct \x7b\n\tPort int `env:\"PORT\"`\n\x7d\n"

/-- The entries of the directory with the two files, the second one first. -/
def twinEntries : List (Name × Entry) :=
  [("second.go", .file (.text secondTwin)), ("first.go", .file (.text firstTwin))]

/-- A project with the two files in a directory below its root. -/
def twinSystem : FileSystem where
  root := .directory [("proj", .directory [("twin", .directory twinEntries)])]

/-- A record that one of the files declares. -/
def twinRecord (name : String) (fields : List Field) : Record :=
  ⟨⟨"proj", ["twin", name]⟩, "example.com/app/twin", "Twin", fields, []⟩

/-- The field of a type that is declared nowhere. -/
def goneField : Field := ⟨"Gone", "Gone", "env:\",prefix=GONE_\""⟩

/-- The record that the first file declares. -/
def twin : Record := twinRecord "first.go" [goneField]

/-- The files of the project. -/
def twinFiles : List SourceFile :=
  [⟨twin.file, twin.package, [], [twin]⟩,
    ⟨⟨"proj", ["twin", "second.go"]⟩, twin.package, [],
      [twinRecord "second.go" [⟨"Port", "int", "env:\"PORT\""⟩]]⟩]

/-- The package of the two files. -/
def twinPackage : Project.VisitedPackage twinSystem ⟨"proj", []⟩
    "example.com/app" twinFiles where
  vendorDirectory := "vendor"
  rootEntries := [("twin", .directory twinEntries)]
  names := ["twin"]
  entries := twinEntries
  scanned := by decide +kernel
  atRoot := by rfl
  visited := .descend .root (List.mem_singleton.mpr rfl) (by decide +kernel)
  isBelow := by simp
  visible := by decide +kernel
  notMain := by decide +kernel
  isAlone := by decide +kernel

/-- What the records of the project are expanded in. -/
def twinSetting : Setting where
  system := twinSystem
  graph := Graph.ofFiles twinFiles
  scheme := {}
  resolver := ⟨⟨"proj", []⟩, "example.com/app", ⟨"proj", ["vendor"]⟩, none⟩

/-- The call for the record. -/
def twinCall : Call := ⟨{}, "", twin⟩

theorem reached_twinCall : Call.Reached twinSetting [twin] twinCall := by
  have split : [twin] = [] ++ twin :: [] := rfl
  have expanded : expandAll (expandWithin twinSetting 0) [] {} =
      (.ok [], {}) := rfl
  exact .root split expanded

theorem visits_goneField :
    Call.Visits twinSetting twinCall goneField twinCall.entered :=
  ⟨[], [], 0, [], rfl, rfl⟩

/-- The first file declares the record for the graph and for the scan of the
directory, and neither has the type that is declared nowhere. -/
theorem twinPackage_agrees :
    twinSystem.isWellNamed = true ∧ twinSystem.hasDistinctNames = true ∧
      (∃ records,
        Dependency.scanPackage twinSystem [] ⟨"proj", ["twin"]⟩
            "example.com/app/twin" =
          (.ok records, [(Path.components ⟨"proj", ["twin"]⟩, records)]) ∧
        ∃ record ∈ records, record.name = "Twin" ∧
          record.fields = [goneField]) ∧
      (nestedRecord twinSetting twinCall.entered twin goneField).1 =
        .ok none := by
  have wellNamed : twinSystem.isWellNamed = true := by decide +kernel
  have distinct : twinSystem.hasDistinctNames = true := by decide +kernel
  obtain ⟨-, ofScan, ofExpansion⟩ :=
    graph_agrees_with_scanPackage wellNamed distinct twinPackage
  refine ⟨wellNamed, distinct, ?_, ?_⟩
  · obtain ⟨records, scanned, agrees⟩ := ofScan ⟨"proj", ["twin"]⟩
      (by decide +kernel) [] rfl
    have inGraph : (Graph.ofFiles twinFiles).find?
        ⟨twinPackage.package, "Twin"⟩ = some twin := by
      decide +kernel
    obtain ⟨present, same⟩ := agrees "Twin"
    obtain ⟨record, inRecords, isName⟩ := present.mp (by simp [inGraph])
    obtain ⟨-, sameFields, -⟩ := same twin inGraph record inRecords isName
    exact ⟨records, scanned, record, inRecords, isName, sameFields⟩
  · obtain ⟨answer, isAnswer, -, sameAnswer⟩ := ofExpansion twinSetting rfl rfl
      [twin] twinCall reached_twinCall (by decide +kernel) goneField
      twinCall.entered visits_goneField "Gone" (by decide +kernel)
    have absent : twinSetting.graph.find? ⟨twinPackage.package, "Gone"⟩ =
        none := by
      decide +kernel
    rw [sameAnswer (by decide +kernel), absent] at isAnswer
    exact isAnswer

/-! ## Where the two do not agree -/

/-- A project with the two files in directories whose names are read alike. -/
def alikeSystem : FileSystem where
  root := .directory [("proj", .directory [
    (Name.twins.1, .directory [("twin.go", .file (.text firstTwin))]),
    (Name.twins.2, .directory [("twin.go", .file (.text secondTwin))])])]

/-- The package of both directories. -/
def alikePackage : String :=
  ImportPath.join "example.com/app" [Name.twins.2]

/-- The record of one of the directories. -/
def alikeRecord (name : Name) (fields : List Field) : Record :=
  ⟨⟨"proj", [name, "twin.go"]⟩, alikePackage, "Twin", fields, []⟩

/-- The record of the first directory. -/
def firstAlike : Record := alikeRecord Name.twins.1 [goneField]

/-- The record of the second directory. -/
def secondAlike : Record :=
  alikeRecord Name.twins.2 [⟨"Port", "int", "env:\"PORT\""⟩]

/-- The files of both directories. -/
def alikeFiles : List SourceFile :=
  [⟨firstAlike.file, alikePackage, [], [firstAlike]⟩,
    ⟨secondAlike.file, alikePackage, [], [secondAlike]⟩]

/-- The field of a type that is declared beside it. -/
def bookField : Field := ⟨"Book", "Book", "env:\",prefix=BOOK_\""⟩

/-- A source file with two records. -/
def shelfSource : String :=
  "package shelf\n\ntype Shelf struct \x7b\n\tBook Book `env:\",prefix=BOOK_\"`\n" ++
    "\x7d\n\ntype Book struct \x7b\n\tTitle string `env:\"TITLE\"`\n\x7d\n"

/-- A project with this file in a directory below its root. -/
def shelfSystem : FileSystem where
  root := .directory [("proj", .directory [
    ("shelf", .directory [("shelf.go", .file (.text shelfSource))])])]

/-- The records of the file in a package. -/
def shelfRecords (package : String) : Record × Record :=
  (⟨⟨"proj", ["shelf", "shelf.go"]⟩, package, "Shelf", [bookField], []⟩,
    ⟨⟨"proj", ["shelf", "shelf.go"]⟩, package, "Book",
      [⟨"Title", "string", "env:\"TITLE\""⟩], []⟩)

/-- The file of the project. -/
def shelfFile : SourceFile where
  path := ⟨"proj", ["shelf", "shelf.go"]⟩
  package := "example.com/app/shelf"
  imports := []
  records := [(shelfRecords "example.com/app/shelf").1,
    (shelfRecords "example.com/app/shelf").2]

/-- What the records of the project are expanded in if its root is the module
cache. -/
def shelfSetting : Setting where
  system := shelfSystem
  graph := Graph.ofFiles [shelfFile]
  scheme := {}
  resolver := ⟨⟨"proj", []⟩, "example.com/app", ⟨"proj", ["vendor"]⟩,
    some ⟨"proj", []⟩⟩

/-- For a directory that is read like another one, the graph has the record of the
other directory. For a record that is found in the project as in a module cache, an
expansion finds a type that the graph does not have in the package of the record. -/
theorem graph_disagrees_alikeSystem :
    Project.scan alikeSystem ⟨"proj", []⟩ "example.com/app" ⟨"vendor", []⟩ =
        .ok alikeFiles ∧
      (Graph.ofFiles alikeFiles).find? ⟨alikePackage, "Twin"⟩ =
        some firstAlike ∧
      (Dependency.scanPackage alikeSystem [] ⟨"proj", [Name.twins.2]⟩
        alikePackage).1 = .ok [secondAlike] ∧
      firstAlike.file.components ≠ secondAlike.file.components ∧
      Project.scan shelfSystem ⟨"proj", []⟩ "example.com/app" ⟨"vendor", []⟩ =
        .ok [shelfFile] ∧
      (shelfSetting.resolver.resolve shelfSystem shelfSetting.graph []
        "shelf" "Shelf" [⟨"shelf", none⟩]).1 =
          .ok (.found (shelfRecords "shelf").1) ∧
      shelfSetting.graph.find? ⟨"shelf", "Book"⟩ = none ∧
      (nestedRecord shelfSetting {} (shelfRecords "shelf").1 bookField).1 =
        .ok (some (shelfRecords "shelf").2) := by
  decide +kernel

end Expansion
end EnvTags
