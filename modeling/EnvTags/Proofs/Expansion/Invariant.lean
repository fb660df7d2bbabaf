import EnvTags.Proofs.Dependency.Resolve
import EnvTags.Proofs.Expansion.Step

/-!
# What expansions preserve

Records come into an expansion in two ways: they are in the graph, or they are
found when a directory is scanned. A directory is scanned for a record, under
the identity of the record's package, or for one of its imports, under the path
of the import. An `Invariant` says what holds of all these records, and its
fields are the few facts that have to be shown. What then holds along every
expansion, with or without success, is proved here once.

A `Call` is the start of the expansion of one record. The calls made for the
fields of a record are those in the relation `Call.Nests`.
-/

namespace EnvTags

namespace Expansion

/-- What holds of the records that an expansion meets. -/
structure Invariant (setting : Setting) where
  /-- What holds of a record that is expanded. -/
  ofRecord : Record → Prop
  /-- What holds of a record found in the directory with some components. -/
  ofFound : List Path.Component → Record → Prop
  /-- What holds of a directory and the package it is scanned for. -/
  ofScan : Path → String → Prop
  /-- The records of the graph can be expanded. -/
  graph_ofRecord : ∀ record ∈ setting.graph.records, ofRecord record
  /-- The records found in directories can be expanded. -/
  found_ofRecord : ∀ directory record, ofFound directory record → ofRecord record
  /-- The directory of a record can be scanned for its package. -/
  own_ofScan : ∀ record, ofRecord record → ofScan record.directory record.package
  /-- The directory of an import of a record can be scanned for its path. -/
  imported_ofScan : ∀ record (imported : Import) directory, ofRecord record →
    imported ∈ record.imports →
    setting.resolver.locate setting.system imported.path = .ok (some directory) →
    ofScan directory imported.path
  /-- What a scan reads is found in the directory. -/
  scan_ofFound : ∀ directory package records, ofScan directory package →
    Dependency.packageRecords setting.system directory package = .ok records →
    ∀ record ∈ records, ofFound directory.components record

namespace Invariant

variable {setting : Setting}

/-- What holds of the directories scanned so far. -/
def OfCache
    (invariant : Invariant setting)
    (cache : Dependency.ScanCache) : Prop :=
  ∀ scanned ∈ cache, ∀ record ∈ scanned.2, invariant.ofFound scanned.1 record

/-- A scan keeps the invariant, and what it answers is found in the
directory. -/
theorem of_scanPackage
    (invariant : Invariant setting)
    {cache : Dependency.ScanCache}
    (known : invariant.OfCache cache)
    {directory : Path}
    {package : String}
    (allowed : invariant.ofScan directory package)
    {answer : Except AnalysisError (List Record)}
    {next : Dependency.ScanCache}
    (scanned : Dependency.scanPackage setting.system cache directory package =
      (answer, next)) :
    invariant.OfCache next ∧
      ∀ records, answer = .ok records →
        ∀ record ∈ records, invariant.ofFound directory.components record := by
  cases answer with
  | error error =>
      obtain ⟨-, rfl⟩ := Dependency.scanPackage_eq_error scanned
      exact ⟨known, by simp⟩
  | ok records =>
      simp only [Except.ok.injEq, forall_eq']
      obtain ⟨before, rfl⟩ | ⟨read, rfl⟩ := Dependency.scanPackage_eq_ok scanned
      · refine ⟨known, ?_⟩
        exact known _ (Dependency.ScanCache.mem_of_records? before)
      · have found := invariant.scan_ofFound directory package records allowed read
        refine ⟨?_, found⟩
        intro scan inside
        rcases List.mem_cons.mp inside with rfl | earlier
        · exact found
        · exact known scan earlier

/-- The resolution of a qualified type keeps the invariant, and the record that
it finds can be expanded. -/
theorem of_resolve
    (invariant : Invariant setting)
    {cache : Dependency.ScanCache}
    (known : invariant.OfCache cache)
    {record : Record}
    (expandable : invariant.ofRecord record)
    {package name : String}
    {answer : Except AnalysisError Dependency.Resolution}
    {next : Dependency.ScanCache}
    (resolved : setting.resolver.resolve setting.system setting.graph cache
      package name record.imports = (answer, next)) :
    invariant.OfCache next ∧
      ∀ target, answer = .ok (.found target) → invariant.ofRecord target := by
  have step := setting.resolver.resolve_step setting.system setting.graph cache
    package name record.imports
  rw [resolved] at step
  cases step with
  | unmatched unbound => exact ⟨known, by simp⟩
  | inGraph imported bound found inGraph =>
      refine ⟨known, ?_⟩
      rintro target ⟨⟩
      exact invariant.graph_ofRecord found (Graph.find?_eq_some inGraph).1
  | unlocatable => exact ⟨known, by simp⟩
  | unlocated => exact ⟨known, by simp⟩
  | unreadable imported bound unknown directory located error _ failed =>
      have allowed := invariant.imported_ofScan record imported directory
        expandable (Import.mem_of_bound? bound) located
      exact ⟨(invariant.of_scanPackage known allowed failed).1, by simp⟩
  | undeclared imported bound unknown directory located records _ scanned =>
      have allowed := invariant.imported_ofScan record imported directory
        expandable (Import.mem_of_bound? bound) located
      exact ⟨(invariant.of_scanPackage known allowed scanned).1, by simp⟩
  | declared imported bound unknown directory located records _ scanned found
      isFirst =>
      have allowed := invariant.imported_ofScan record imported directory
        expandable (Import.mem_of_bound? bound) located
      obtain ⟨kept, inDirectory⟩ :=
        invariant.of_scanPackage known allowed scanned
      refine ⟨kept, ?_⟩
      rintro target ⟨⟩
      exact invariant.found_ofRecord _ _
        (inDirectory records rfl found (List.mem_of_find?_eq_some isFirst))

/-- The lookup of a nested record keeps the invariant, and the record that it
finds can be expanded. -/
theorem of_nestedRecord
    (invariant : Invariant setting)
    {state : State}
    (known : invariant.OfCache state.cache)
    {record : Record}
    (expandable : invariant.ofRecord record)
    {field : Field}
    {answer : Except AnalysisError (Option Record)}
    {next : State}
    (lookup : nestedRecord setting state record field =
      (answer, next)) :
    invariant.OfCache next.cache ∧
      ∀ target, answer = .ok (some target) → invariant.ofRecord target := by
  have step := nestedRecord_step setting state record field
  rw [lookup] at step
  cases step with
  | unnamed => exact ⟨known, by simp⟩
  | inGraph name unqualified found inGraph =>
      refine ⟨known, ?_⟩
      rintro target ⟨⟩
      exact invariant.graph_ofRecord found (Graph.find?_eq_some inGraph).1
  | unreadable name unqualified unknown error cache failed =>
      have allowed := invariant.own_ofScan record expandable
      exact ⟨(invariant.of_scanPackage known allowed failed).1, by simp⟩
  | declared name unqualified unknown records cache scanned found isFirst =>
      have allowed := invariant.own_ofScan record expandable
      obtain ⟨kept, inDirectory⟩ :=
        invariant.of_scanPackage known allowed scanned
      refine ⟨kept, ?_⟩
      rintro target ⟨⟩
      exact invariant.found_ofRecord _ _
        (inDirectory records rfl found (List.mem_of_find?_eq_some isFirst))
  | undeclared name unqualified unknown records cache scanned absent =>
      have allowed := invariant.own_ofScan record expandable
      exact ⟨(invariant.of_scanPackage known allowed scanned).1, by simp⟩
  | unresolvable package name qualified error cache failed =>
      exact ⟨(invariant.of_resolve known expandable failed).1, by simp⟩
  | resolved package name qualified found cache isFound =>
      obtain ⟨kept, expandableTarget⟩ :=
        invariant.of_resolve known expandable isFound
      refine ⟨kept, ?_⟩
      rintro target ⟨⟩
      exact expandableTarget found rfl
  | unresolved package name qualified resolution omission cache resolved =>
      exact ⟨(invariant.of_resolve known expandable resolved).1, by simp⟩

/-! ## Whole expansions -/

/-- An expander keeps the invariant, whether it succeeds or not. -/
def KeptBy (invariant : Invariant setting) (expander : Expander) : Prop :=
  ∀ (state : State) (namePrefix : String) (record : Record),
    invariant.OfCache state.cache → invariant.ofRecord record →
      invariant.OfCache (expander state namePrefix record).2.cache

/-- A field keeps the invariant. -/
theorem ofCache_expandField
    {invariant : Invariant setting}
    {expander : Expander}
    (kept : invariant.KeptBy expander)
    {record : Record}
    (expandable : invariant.ofRecord record)
    (namePrefix : String)
    (field : Field)
    {state : State}
    (known : invariant.OfCache state.cache) :
    invariant.OfCache (expandField setting expander namePrefix record
      field state).2.cache := by
  have step := expandField_step setting expander namePrefix record field state
  generalize expandField setting expander namePrefix record field
    state = result at step ⊢
  cases step with
  | untagged undescribed => exact known
  | leaf descriptor isLeaf => exact known
  | failed descriptor isContainer error next lookup =>
      exact (invariant.of_nestedRecord known expandable lookup).1
  | missing descriptor isContainer next lookup =>
      exact (invariant.of_nestedRecord known expandable lookup).1
  | cycle descriptor isContainer target next lookup active =>
      exact (invariant.of_nestedRecord known expandable lookup).1
  | nested descriptor isContainer target next lookup fresh =>
      obtain ⟨knownNext, found⟩ :=
        invariant.of_nestedRecord known expandable lookup
      exact kept next _ target knownNext (found target rfl)

/-- A row of fields keeps the invariant. -/
theorem ofCache_expandFields
    {invariant : Invariant setting}
    {expander : Expander}
    (kept : invariant.KeptBy expander)
    {record : Record}
    (expandable : invariant.ofRecord record)
    (namePrefix : String)
    (fields : List Field)
    (state : State)
    (known : invariant.OfCache state.cache) :
    invariant.OfCache (expandFields setting expander namePrefix record
      fields state).2.cache := by
  apply expandFields_keeps fun other => invariant.OfCache other.cache
  · intro field _ other knownOther
    exact ofCache_expandField kept expandable namePrefix field knownOther
  · exact known

/-- Within any depth an expansion keeps the invariant. -/
theorem keptBy_expandWithin
    (invariant : Invariant setting)
    (depth : Nat) :
    invariant.KeptBy (expandWithin setting depth) := by
  induction depth with
  | zero =>
      intro state namePrefix record known expandable
      exact known
  | succ depth inductionHypothesis =>
      intro state namePrefix record known expandable
      exact ofCache_expandFields inductionHypothesis expandable namePrefix
        record.fields (state.enter record.key) known

/-- The expansions of some records, one after the other, keep the invariant. -/
theorem ofCache_expandAll
    {invariant : Invariant setting}
    {expander : Expander}
    (kept : invariant.KeptBy expander)
    {records : List Record}
    (expandable : ∀ record ∈ records, invariant.ofRecord record)
    (state : State)
    (known : invariant.OfCache state.cache) :
    invariant.OfCache (expandAll expander records state).2.cache := by
  induction records generalizing state with
  | nil => exact known
  | cons record records inductionHypothesis =>
      have next := kept state "" record known (expandable record (by simp))
      have rest := fun other inside =>
        expandable other (List.mem_cons_of_mem _ inside)
      simp only [expandAll]
      rcases result : expander state "" record with ⟨_ | first, middle⟩
      · simpa [result] using next
      · simp only [result] at next
        have last := inductionHypothesis rest middle next
        rcases others : expandAll expander records middle with
          ⟨_ | entries, final⟩ <;>
          simpa [others] using last

end Invariant

/-! ## Calls -/

/-- The start of the expansion of a record. -/
structure Call where
  /-- The state before the record is entered. -/
  state : State
  /-- What is put before the names of the variables. -/
  namePrefix : String
  /-- The record. -/
  record : Record

namespace Call

/-- The state in which the first field of the record is visited. -/
def entered (call : Call) : State :=
  call.state.enter call.record.key

/-- The expansion of the caller's record makes another call for one of its
fields: the fields before it succeed, within some depth, and the field stands
for a record that is not being expanded. -/
inductive Nests
    (setting : Setting)
    (caller : Call)
    (field : Field) : Call → Prop
  | intro
      {before after : List Field}
      {depth : Nat}
      {entries : List Variable}
      {middle next : State}
      {descriptor : Tag.Descriptor}
      {target : Record}
      (fields : caller.record.fields = before ++ field :: after)
      (expanded : expandFields setting (expandWithin setting depth)
        caller.namePrefix caller.record before caller.entered =
          (.ok entries, middle))
      (isContainer : ContainerField setting field descriptor)
      (lookup : nestedRecord setting middle caller.record field =
        (.ok (some target), next))
      (fresh : target.key ∉ next.active) :
      Nests setting caller field
        ⟨next, caller.namePrefix ++ descriptor.containerPrefix, target⟩

/-- The calls made when some records are expanded one after the other, from
nothing scanned: one for each record, as long as those before it succeed, and
those made for their fields. -/
inductive Reached (setting : Setting) (roots : List Record) : Call → Prop
  | root
      {before after : List Record}
      {record : Record}
      {depth : Nat}
      {entries : List Variable}
      {state : State}
      (split : roots = before ++ record :: after)
      (expanded : expandAll (expandWithin setting depth) before {} =
        (.ok entries, state)) :
      Reached setting roots ⟨state, "", record⟩
  | nested
      {caller callee : Call}
      {field : Field}
      (reached : Reached setting roots caller)
      (nests : Nests setting caller field callee) :
      Reached setting roots callee

/-- A field of the caller's record is visited in a state: the fields before it
succeed, within some depth. -/
def Visits
    (setting : Setting)
    (caller : Call)
    (field : Field)
    (state : State) : Prop :=
  ∃ before after depth entries,
    caller.record.fields = before ++ field :: after ∧
      expandFields setting (expandWithin setting depth) caller.namePrefix
        caller.record before caller.entered = (.ok entries, state)

/-- The fields before the one that is visited keep an invariant. -/
theorem Visits.ofCache
    {setting : Setting}
    (invariant : Invariant setting)
    {caller : Call}
    {field : Field}
    {state : State}
    (visits : Visits setting caller field state)
    (known : invariant.OfCache caller.state.cache)
    (expandable : invariant.ofRecord caller.record) :
    invariant.OfCache state.cache := by
  obtain ⟨before, after, depth, entries, fields, expanded⟩ := visits
  have kept := Invariant.ofCache_expandFields
    (invariant.keptBy_expandWithin depth) expandable caller.namePrefix before
    caller.entered known
  simpa [expanded] using kept

/-- The record of a call made for a field was looked up after the fields before
it, which keep an invariant. -/
theorem Nests.exists_lookup
    {setting : Setting}
    (invariant : Invariant setting)
    {caller callee : Call}
    {field : Field}
    (nests : Nests setting caller field callee)
    (known : invariant.OfCache caller.state.cache)
    (expandable : invariant.ofRecord caller.record) :
    ∃ middle, invariant.OfCache middle.cache ∧
      nestedRecord setting middle caller.record field =
        (.ok (some callee.record), callee.state) := by
  obtain ⟨fields, expanded, isContainer, lookup, fresh⟩ := nests
  rename_i before after depth entries middle next descriptor target
  have visits : Visits setting caller field middle :=
    ⟨before, after, depth, entries, fields, expanded⟩
  exact ⟨middle, visits.ofCache invariant known expandable, lookup⟩

/-- What holds at a call holds at the calls made for its fields. -/
theorem Nests.invariant
    {setting : Setting}
    (invariant : Invariant setting)
    {caller callee : Call}
    {field : Field}
    (nests : Nests setting caller field callee)
    (known : invariant.OfCache caller.state.cache)
    (expandable : invariant.ofRecord caller.record) :
    invariant.OfCache callee.state.cache ∧
      invariant.ofRecord callee.record := by
  obtain ⟨middle, knownMiddle, lookup⟩ :=
    nests.exists_lookup invariant known expandable
  obtain ⟨knownNext, found⟩ :=
    invariant.of_nestedRecord knownMiddle expandable lookup
  exact ⟨knownNext, found callee.record rfl⟩

/-- An invariant of the roots holds at every call that is reached. -/
theorem Reached.invariant
    {setting : Setting}
    (invariant : Invariant setting)
    {roots : List Record}
    (expandable : ∀ record ∈ roots, invariant.ofRecord record)
    {call : Call}
    (reached : Reached setting roots call) :
    invariant.OfCache call.state.cache ∧ invariant.ofRecord call.record := by
  induction reached with
  | @root before after record depth entries state split expanded =>
      have inside : ∀ other ∈ before, invariant.ofRecord other := by
        intro other present
        exact expandable other (by simp [split, present])
      have kept := Invariant.ofCache_expandAll
        (invariant.keptBy_expandWithin depth) inside {}
        (by simp [Invariant.OfCache])
      refine ⟨by simpa [expanded] using kept, expandable record ?_⟩
      simp [split]
  | nested _ nests inductionHypothesis =>
      exact nests.invariant invariant inductionHypothesis.1
        inductionHypothesis.2

end Call
end Expansion
end EnvTags
