import EnvTags.Proofs.Dependency.History
import EnvTags.Proofs.Dependency.Location
import EnvTags.Proofs.FileSystem.Order

/-!
# What stays known

A resolver is called again and again while the file system changes. A call scans
at most one directory, and only one that is not known; then the first
declarations found there stay known for good, whatever happens to the files. A
call that fails leaves no trace, so it can be repeated once the files are
repaired. The main statement says so of every sequence of calls.
-/

namespace EnvTags

namespace Project

/-- Named files are scanned by what each of them declares. -/
theorem scanFiles_map_child_eq_ok_iff
    {system : FileSystem}
    {scope : Scope}
    {directory : Path}
    {names : List Name}
    {files : List SourceFile} :
    scanFiles system scope (names.map directory.child) = .ok files ↔
      ∃ declared : List (Name × Go.Declarations),
        declared.map Prod.fst = names ∧
          (∀ file ∈ declared,
            Declares system (directory.child file.1) file.2) ∧
          files = declared.map fun file =>
            sourceFile scope (directory.child file.1) file.2 := by
  induction names generalizing files with
  | nil =>
      constructor
      · intro scanned
        exact ⟨[], rfl, by simp, (Except.ok.inj scanned).symm⟩
      · rintro ⟨declared, sameNames, -, rfl⟩
        rw [List.map_eq_nil_iff.mp sameNames]
        rfl
  | cons name names inductionHypothesis =>
      constructor
      · intro scanned
        obtain ⟨file, others, first, rest, rfl⟩ :=
          scanFiles_cons_eq_ok_iff.mp scanned
        obtain ⟨declared, declares, rfl⟩ := scanFile_eq_ok_iff.mp first
        obtain ⟨more, sameNames, allDeclare, rfl⟩ :=
          inductionHypothesis.mp rest
        refine ⟨(name, declared) :: more, by simp [sameNames], ?_, rfl⟩
        exact List.forall_mem_cons.mpr ⟨declares, allDeclare⟩
      · rintro ⟨declared, sameNames, allDeclare, rfl⟩
        obtain ⟨file, more, rfl, rfl, isMore⟩ := List.map_eq_cons_iff.mp sameNames
        obtain ⟨declares, others⟩ := List.forall_mem_cons.mp allDeclare
        have first := scanFile_eq_ok_iff.mpr
          ⟨file.2, declares, (rfl : sourceFile scope _ _ = _)⟩
        have rest := inductionHypothesis.mpr ⟨more, isMore, others, rfl⟩
        exact scanFiles_cons_eq_ok_iff.mpr ⟨_, _, first, rest, rfl⟩

end Project

namespace Dependency

/-- The records are the first declarations with their names in the source files
of a directory, which are read in the order of their names. -/
def DeclaredFirst
    (system : FileSystem)
    (directory : Path)
    (package : String)
    (records : List Record) : Prop :=
  ∃ (entries : List (Name × Entry))
    (files : List (Name × Go.Declarations)),
    system.readDirectory directory = .ok entries ∧
      (files.map Prod.fst).Perm
        ((entries.filter Project.isSourceFile).map Prod.fst) ∧
      (files.map Prod.fst).Pairwise (· ≤ ·) ∧
      (∀ file ∈ files,
        Project.Declares system (directory.child file.1) file.2) ∧
      records = Record.firstOccurrences Record.name
        (files.flatMap fun file =>
          (Project.sourceFile (.fixed package) (directory.child file.1)
            file.2).records)

/-- A directory that can be read gives its first declarations. -/
theorem packageRecords_eq_ok_iff
    {system : FileSystem}
    {directory : Path}
    {package : String}
    {records : List Record} :
    packageRecords system directory package = .ok records ↔
      DeclaredFirst system directory package records := by
  unfold packageRecords Project.scanDirectory Project.directoryFiles
  cases read : system.readDirectory directory with
  | error failure => simp [DeclaredFirst, read]
  | ok entries =>
      have children : ∀ sources : List (Name × Entry),
          (sources.map fun entry => directory.child entry.1) =
            (sources.map Prod.fst).map directory.child := by
        intro sources
        rw [List.map_map]
        rfl
      simp only [children]
      constructor
      · intro found
        cases scanned : Project.scanFiles system (.fixed package)
            (((Entry.sortByName (entries.filter Project.isSourceFile)).map
              Prod.fst).map directory.child) with
        | error error => simp only [scanned, reduceCtorEq] at found
        | ok files =>
            simp only [scanned, Except.ok.injEq] at found
            obtain ⟨declared, sameNames, allDeclare, rfl⟩ :=
              Project.scanFiles_map_child_eq_ok_iff.mp scanned
            obtain ⟨permuted, inOrder⟩ :=
              Entry.eq_map_fst_sortByName_iff.mp sameNames
            refine ⟨entries, declared, read, permuted, inOrder, allDeclare, ?_⟩
            rw [← found, Record.firstBy_eq_firstOccurrences, List.flatMap_map]
      · rintro ⟨others, files, isEntries, permuted, inOrder, allDeclare, rfl⟩
        obtain rfl := Except.ok.inj (read.symm.trans isEntries)
        have scanned := Project.scanFiles_map_child_eq_ok_iff.mpr
          ⟨files, Entry.eq_map_fst_sortByName_iff.mpr ⟨permuted, inOrder⟩,
            allDeclare, (rfl : _ = files.map fun file =>
              Project.sourceFile (.fixed package) (directory.child file.1)
                file.2)⟩
        simp only [scanned, List.flatMap_map,
          Record.firstBy_eq_firstOccurrences]

/-! ## Calls -/

/-- The answer to a query. -/
inductive Answer
  /-- The outcome of looking for a type. -/
  | resolution (outcome : Resolution)
  /-- The records of a directory. -/
  | records (found : List Record)
  deriving DecidableEq

/-- The answer that the records of a package give to a query. -/
def Query.answerFrom (package : String) (records : List Record) :
    Query → Answer
  | resolve _ _ typeName _ =>
      .resolution (Resolution.among package typeName records)
  | scan _ _ => .records records

/-- A query with the file system as it is when the query is asked. -/
structure Call where
  /-- The file system. -/
  system : FileSystem
  /-- The query. -/
  query : Query

namespace Call

/-- The answer to a call, and the directories known after it. -/
def answer (resolver : Resolver) (cache : ScanCache) (call : Call) :
    Except AnalysisError Answer × ScanCache :=
  match call.query with
  | .resolve graph packageName typeName imports =>
      let resolved := resolver.resolve call.system graph cache packageName
        typeName imports
      (resolved.1.map .resolution, resolved.2)
  | .scan directory package =>
      let scanned := scanPackage call.system cache directory package
      (scanned.1.map .records, scanned.2)

/-- The directory that a call looks into, and the package for which it does. -/
def target? (resolver : Resolver) (call : Call) : Option (Path × String) :=
  call.query.target? resolver call.system

/-- The ways in which a call changes what is known. -/
inductive Changes
    (resolver : Resolver)
    (cache : ScanCache)
    (call : Call) : Except AnalysisError Answer × ScanCache → Prop
  /-- Nothing more gets known. -/
  | unchanged (result : Except AnalysisError Answer) :
      Changes resolver cache call (result, cache)
  /-- One directory gets known that was not known before. -/
  | scanned
      (directory : Path)
      (package : String)
      (target : call.target? resolver = some (directory, package))
      (unknown : cache.records? directory = none)
      (records : List Record)
      (read : DeclaredFirst call.system directory package records) :
      Changes resolver cache call
        (.ok (call.query.answerFrom package records),
          (directory.components, records) :: cache)

variable {resolver : Resolver} {cache : ScanCache}

/-- A call that looks into a directory answers from a scan of it. -/
theorem answer_of_target
    {call : Call}
    {directory : Path}
    {package : String}
    (target : call.target? resolver = some (directory, package)) :
    call.answer resolver cache =
      ((scanPackage call.system cache directory package).1.map fun records =>
          call.query.answerFrom package records,
        (scanPackage call.system cache directory package).2) := by
  obtain ⟨system, query⟩ := call
  cases query with
  | scan looked asked =>
      obtain ⟨rfl, rfl⟩ := Prod.mk.inj (Option.some.inj target)
      rfl
  | resolve graph packageName typeName imports =>
      simp only [target?, Query.target?] at target
      cases bound : Import.bound? packageName imports with
      | none => simp [bound] at target
      | some imported =>
          cases unknown : graph.find? ⟨imported.path, typeName⟩ with
          | some record => simp [bound, unknown] at target
          | none =>
              rcases located : resolver.locate system imported.path with
                error | _ | looked
              · simp [bound, unknown, located] at target
              · simp [bound, unknown, located] at target
              · simp only [bound, unknown, located, Option.some.injEq,
                  Prod.mk.injEq] at target
                obtain ⟨rfl, rfl⟩ := target
                simp only [answer,
                  Resolver.resolve_of_locate bound unknown located, answerIn,
                  Query.answerFrom]
                cases (scanPackage system cache looked imported.path).1 <;> rfl

theorem answer_cache (cache : ScanCache) (call : Call) :
    (call.answer resolver cache).2 =
      call.query.after resolver call.system cache := by
  obtain ⟨system, query⟩ := call
  cases query <;> rfl

/-- Every call changes what is known in one of these ways. -/
theorem changes (resolver : Resolver) (cache : ScanCache) (call : Call) :
    Changes resolver cache call (call.answer resolver cache) := by
  cases target : call.target? resolver with
  | none =>
      have same : (call.answer resolver cache).2 = cache := by
        rw [target?] at target
        rw [answer_cache, Query.after_eq, target]
      have pair : call.answer resolver cache =
          ((call.answer resolver cache).1, cache) :=
        Prod.ext rfl same
      rw [pair]
      exact .unchanged _
  | some looked =>
      obtain ⟨directory, package⟩ := looked
      rw [answer_of_target target, scanPackage]
      cases known : cache.records? directory with
      | some records => exact .unchanged _
      | none =>
          cases read : packageRecords call.system directory package with
          | error error => exact .unchanged _
          | ok records =>
              exact .scanned directory package target known records
                (packageRecords_eq_ok_iff.mp read)

/-- A call that fails changes nothing. -/
theorem answer_cache_of_error
    {call : Call}
    {error : AnalysisError}
    (failed : (call.answer resolver cache).1 = .error error) :
    (call.answer resolver cache).2 = cache := by
  have step := call.changes resolver cache
  generalize call.answer resolver cache = result at step failed
  cases step with
  | unchanged result => rfl
  | scanned => cases failed

/-- A call into a directory that is not known reads it. -/
theorem answer_of_unknown
    {call : Call}
    {directory : Path}
    {package : String}
    (target : call.target? resolver = some (directory, package))
    (unknown : cache.records? directory = none)
    {records : List Record}
    (read : DeclaredFirst call.system directory package records) :
    call.answer resolver cache =
      (.ok (call.query.answerFrom package records),
        (directory.components, records) :: cache) := by
  simp [answer_of_target target, scanPackage, unknown,
    packageRecords_eq_ok_iff.mpr read, Except.map]

/-- A call fails only into a directory that is not known. -/
theorem unknown_of_error
    {call : Call}
    {directory : Path}
    {package : String}
    (target : call.target? resolver = some (directory, package))
    {error : AnalysisError}
    (failed : (call.answer resolver cache).1 = .error error) :
    cache.records? directory = none := by
  cases known : cache.records? directory with
  | none => rfl
  | some records =>
      simp [answer_of_target target, scanPackage, known, Except.map] at failed

/-- A call keeps what is known. -/
theorem records?_answer_of_known
    {directory : Path}
    {records : List Record}
    (known : cache.records? directory = some records)
    (call : Call) :
    (call.answer resolver cache).2.records? directory = some records := by
  have step := call.changes resolver cache
  generalize call.answer resolver cache = result at step ⊢
  cases step with
  | unchanged result => exact known
  | scanned looked package target unknown others read =>
      have different : (directory.components == looked.components) = false := by
        rw [beq_eq_false_iff_ne]
        intro same
        rw [ScanCache.records?, same] at known
        simp [ScanCache.records?, known] at unknown
      rw [ScanCache.records?, List.lookup_cons, different]
      exact known

end Call

/-! ## Sequences of calls -/

/-- The directories known after some calls, from nothing known. -/
def remembered (resolver : Resolver) (calls : List Call) : ScanCache :=
  calls.foldl (fun cache call => (call.answer resolver cache).2) []

section Remembered

variable (resolver : Resolver)

theorem remembered_concat (calls : List Call) (call : Call) :
    remembered resolver (calls ++ [call]) =
      (call.answer resolver (remembered resolver calls)).2 := by
  rw [remembered, List.foldl_concat]
  rfl

/-- Every directory is known once. -/
theorem nodup_remembered (calls : List Call) :
    ((remembered resolver calls).map Prod.fst).Nodup := by
  induction calls using List.reverseRecOn with
  | nil => exact .nil
  | append_singleton calls call inductionHypothesis =>
      rw [remembered_concat]
      have step := call.changes resolver (remembered resolver calls)
      generalize call.answer resolver (remembered resolver calls) = result
        at step ⊢
      cases step with
      | unchanged result => exact inductionHypothesis
      | scanned directory package target unknown records read =>
          refine List.nodup_cons.mpr ⟨?_, inductionHypothesis⟩
          intro isKnown
          obtain ⟨entry, inside, isPlace⟩ := List.mem_map.mp isKnown
          have absent := List.lookup_eq_none_iff.mp unknown entry inside
          simp [isPlace] at absent

/-- Each call makes at most one more directory known, and none unknown. -/
theorem length_remembered_append (calls later : List Call) :
    (remembered resolver calls).length ≤
        (remembered resolver (calls ++ later)).length ∧
      (remembered resolver (calls ++ later)).length ≤
        (remembered resolver calls).length + later.length := by
  induction later using List.reverseRecOn with
  | nil => simp
  | append_singleton later call inductionHypothesis =>
      rw [← List.append_assoc, remembered_concat]
      have step := call.changes resolver (remembered resolver (calls ++ later))
      generalize call.answer resolver (remembered resolver (calls ++ later)) =
        result at step ⊢
      cases step with
      | unchanged result =>
          simp only [List.length_append, List.length_singleton]
          omega
      | scanned =>
          simp only [List.length_cons, List.length_append]
          omega

variable {resolver}

/-- What is known stays known. -/
theorem records?_remembered_append
    {calls : List Call}
    {directory : Path}
    {records : List Record}
    (known : (remembered resolver calls).records? directory = some records)
    (later : List Call) :
    (remembered resolver (calls ++ later)).records? directory =
      some records := by
  induction later using List.reverseRecOn with
  | nil => simpa using known
  | append_singleton later call inductionHypothesis =>
      rw [← List.append_assoc, remembered_concat]
      exact call.records?_answer_of_known inductionHypothesis

/-- Where the records known for a place come from: the call that scanned a
directory at the place when nothing was known of it. -/
structure Origin
    (resolver : Resolver)
    (calls : List Call)
    (place : List Path.Component)
    (records : List Record) where
  /-- The calls before. -/
  earlier : List Call
  /-- The call that scanned the directory. -/
  call : Call
  /-- The calls after it. -/
  later : List Call
  /-- The directory that was scanned. -/
  directory : Path
  /-- The package for which it was scanned. -/
  package : String
  /-- The call is one of the calls. -/
  calls_eq : calls = earlier ++ call :: later
  /-- The call looks into the directory, for the package. -/
  target : call.target? resolver = some (directory, package)
  /-- The directory is at the place. -/
  components_eq : directory.components = place
  /-- Nothing was known of the directory. -/
  unknown : (remembered resolver earlier).records? directory = none
  /-- The records were the first declarations in the directory. -/
  read : DeclaredFirst call.system directory package records

/-- All that is known was scanned by one of the calls. -/
theorem nonempty_origin
    {calls : List Call}
    {place : List Path.Component}
    {records : List Record}
    (known : (place, records) ∈ remembered resolver calls) :
    Nonempty (Origin resolver calls place records) := by
  induction calls using List.reverseRecOn with
  | nil => cases known
  | append_singleton calls call inductionHypothesis =>
      have before (knownBefore : (place, records) ∈ remembered resolver calls) :
          Nonempty (Origin resolver (calls ++ [call]) place records) := by
        obtain ⟨origin⟩ := inductionHypothesis knownBefore
        exact ⟨{ origin with
          later := origin.later ++ [call]
          calls_eq := by simp [origin.calls_eq] }⟩
      rw [remembered_concat] at known
      have step := call.changes resolver (remembered resolver calls)
      generalize call.answer resolver (remembered resolver calls) = result
        at step known
      cases step with
      | unchanged result => exact before known
      | scanned directory package target unknown found read =>
          rcases List.mem_cons.mp known with isNew | knownBefore
          · obtain ⟨rfl, rfl⟩ := Prod.mk.inj isNew
            exact ⟨⟨calls, call, [], directory, package, rfl, target, rfl,
              unknown, read⟩⟩
          · exact before knownBefore

end Remembered

/-- What holds after some calls, whatever the file system was at each of them. -/
structure StaysKnown (resolver : Resolver) (calls : List Call) : Prop where
  /-- Every directory is known once. -/
  nodup_places : ((remembered resolver calls).map Prod.fst).Nodup
  /-- The number of known directories never goes down, and goes up by at most
  one with each call. -/
  length_append : ∀ later,
    (remembered resolver calls).length ≤
        (remembered resolver (calls ++ later)).length ∧
      (remembered resolver (calls ++ later)).length ≤
        (remembered resolver calls).length + later.length
  /-- A known directory is never read again: a scan of it at any later time, by
  any path with its components, in any file system and for any package, gives
  the same records. -/
  scan_of_known : ∀ directory records,
    (remembered resolver calls).records? directory = some records →
      ∀ later (path : Path), path.components = directory.components →
        ∀ system package,
          scanPackage system (remembered resolver (calls ++ later)) path
              package =
            (.ok records, remembered resolver (calls ++ later))
  /-- The names of known records are different. -/
  nodup_names : ∀ place records, (place, records) ∈ remembered resolver calls →
    (records.map Record.name).Nodup
  /-- Known records were the first declarations when their directory was
  scanned. -/
  origin : ∀ place records, (place, records) ∈ remembered resolver calls →
    Nonempty (Origin resolver calls place records)
  /-- A call that fails changes nothing. -/
  failed : ∀ (call : Call) error,
    (call.answer resolver (remembered resolver calls)).1 = .error error →
      remembered resolver (calls ++ [call]) = remembered resolver calls
  /-- A call into a directory that is not known reads it and succeeds if it can
  be read. -/
  scan_of_unknown : ∀ (call : Call) directory package records,
    call.target? resolver = some (directory, package) →
      (remembered resolver calls).records? directory = none →
        DeclaredFirst call.system directory package records →
          call.answer resolver (remembered resolver calls) =
            (.ok (call.query.answerFrom package records),
              (directory.components, records) :: remembered resolver calls)
  /-- So a call that failed in a directory succeeds when it is repeated after
  the directory has been repaired. -/
  repaired : ∀ (call : Call) error directory package,
    (call.answer resolver (remembered resolver calls)).1 = .error error →
      call.target? resolver = some (directory, package) →
        ∀ system records,
          call.query.target? resolver system = some (directory, package) →
            DeclaredFirst system directory package records →
              Call.answer resolver (remembered resolver (calls ++ [call]))
                  ⟨system, call.query⟩ =
                (.ok (call.query.answerFrom package records),
                  (directory.components, records) ::
                    remembered resolver calls)

/-- A row of first declarations has different names. -/
theorem DeclaredFirst.nodup_names
    {system : FileSystem}
    {directory : Path}
    {package : String}
    {records : List Record}
    (read : DeclaredFirst system directory package records) :
    (records.map Record.name).Nodup := by
  obtain ⟨entries, files, -, -, -, -, rfl⟩ := read
  rw [← Record.firstBy_eq_firstOccurrences]
  exact Record.nodup_map_firstBy Record.name _

/-- Every sequence of calls, with any changes of the file system between them,
keeps the directories that were scanned and what was found there first, and
forgets the calls that failed. -/
theorem staysKnown (resolver : Resolver) (calls : List Call) :
    StaysKnown resolver calls where
  nodup_places := nodup_remembered resolver calls
  length_append := length_remembered_append resolver calls
  scan_of_known := by
    intro directory records known later path same system package
    have stillKnown := records?_remembered_append known later
    rw [ScanCache.records?, ← same] at stillKnown
    simp [scanPackage, ScanCache.records?, stillKnown]
  nodup_names := by
    intro place records known
    obtain ⟨origin⟩ := nonempty_origin known
    exact origin.read.nodup_names
  origin := fun _ _ => nonempty_origin
  failed := by
    intro call error failed
    rw [remembered_concat]
    exact Call.answer_cache_of_error failed
  scan_of_unknown := by
    intro call directory package records target unknown read
    exact Call.answer_of_unknown target unknown read
  repaired := by
    intro call error directory package failed target system records again read
    have sameTarget : Call.target? resolver ⟨system, call.query⟩ =
        some (directory, package) := again
    rw [remembered_concat, Call.answer_cache_of_error failed]
    exact Call.answer_of_unknown sameTarget
      (Call.unknown_of_error target failed) read

end Dependency
end EnvTags
