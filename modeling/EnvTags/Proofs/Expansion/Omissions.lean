import EnvTags.Proofs.Expansion.Leaves

/-!
# Fields that are left out

The diagnostics of an expansion are those of the fields it visits, one field after
the other. A container field that is not expanded is reported once, under the
name of its record and its own name, if its type is a name: then it is the
lookup that fails, or the record is being expanded already. A type of another
form is not looked up, and such a container is left out without a word.
-/

namespace EnvTags

/-- The type is a name, with or without the name of a package before it. -/
def TypeRef.IsNamed : TypeRef → Prop
  | builtin _ => False
  | unqualified _ => True
  | qualified _ _ => True
  | composite _ => False

theorem TypeRef.isNamed_iff
    {typeRef : TypeRef}
    (notBuiltin : typeRef.isBuiltin = false) :
    typeRef.IsNamed ↔ ∀ text, typeRef ≠ .composite text := by
  cases typeRef with
  | builtin type => simp [isBuiltin] at notBuiltin
  | unqualified name => simp [IsNamed]
  | qualified package name => simp [IsNamed]
  | composite text => simp [IsNamed]

namespace Expansion

/-! ## Lookups -/

/-- Only for a type that is a name a record is found. -/
theorem isNamed_of_nestedRecord
    {setting : Setting}
    {state next : State}
    {record target : Record}
    {field : Field}
    (lookup : nestedRecord setting state record field =
      (.ok (some target), next)) :
    field.typeRef.IsNamed := by
  have step := nestedRecord_step setting state record field
  rw [lookup] at step
  cases step with
  | inGraph name unqualified => simp [unqualified, TypeRef.IsNamed]
  | declared name unqualified => simp [unqualified, TypeRef.IsNamed]
  | resolved package name qualified => simp [qualified, TypeRef.IsNamed]

/-- A lookup that finds no record is reported once if the type is a name, and not
at all otherwise. -/
theorem diagnostics_of_nestedRecord_none
    {setting : Setting}
    {state next : State}
    {record : Record}
    {field : Field}
    (lookup : nestedRecord setting state record field = (.ok none, next)) :
    (field.typeRef.IsNamed ∧ ∃ omission, next.diagnostics =
        state.diagnostics ++ [⟨record.key, field.name, omission⟩]) ∨
      (¬field.typeRef.IsNamed ∧ next.diagnostics = state.diagnostics) := by
  have step := nestedRecord_step setting state record field
  rw [lookup] at step
  cases step with
  | unnamed notUnqualified notQualified =>
      refine .inr ⟨?_, rfl⟩
      cases typeRef : field.typeRef with
      | builtin type => exact id
      | unqualified name => exact absurd typeRef (notUnqualified name)
      | qualified package name => exact absurd typeRef (notQualified package name)
      | composite text => exact id
  | undeclared name unqualified =>
      exact .inl ⟨by simp [unqualified, TypeRef.IsNamed], _, rfl⟩
  | unresolved package name qualified =>
      exact .inl ⟨by simp [qualified, TypeRef.IsNamed], _, rfl⟩

/-! ## Visits -/

namespace Branch

/-- The field of a branch. -/
@[simp] def field : Branch → Field
  | leaf field _ => field
  | child field _ _ _ => field
  | cut field => field
  | omitted field _ => field

/-- Whether the field is expanded into a nested record. -/
def isExpanded : Branch → Bool
  | child _ _ _ _ => true
  | _ => false

/-- The diagnostics about the field itself, without those of a nested record. -/
@[simp] def ownReports (record : Record) : Branch → List Diagnostic
  | leaf _ _ => []
  | child _ _ _ _ => []
  | cut field => [⟨record.key, field.name, .cycle⟩]
  | omitted _ reports => reports

end Branch

/-- What becomes of one field of a record that is expanded. -/
structure Visit where
  /-- The record that declares the field. -/
  record : Record
  /-- What becomes of the field. -/
  branch : Branch

namespace Visit

/-- The field that is visited. -/
def field (visit : Visit) : Field :=
  visit.branch.field

/-- The diagnostics that the visit adds itself. -/
def reports (visit : Visit) : List Diagnostic :=
  visit.branch.ownReports visit.record

/-- The field is expanded, or it is reported once under the names of the record
and the field. -/
def IsAccounted (visit : Visit) : Prop :=
  (visit.branch.isExpanded = true ∧ visit.reports = []) ∨
    (visit.branch.isExpanded = false ∧ ∃ omission,
      visit.reports = [⟨visit.record.key, visit.field.name, omission⟩])

/-- The field is neither expanded nor reported. -/
def IsSilent (visit : Visit) : Prop :=
  visit.branch.isExpanded = false ∧ visit.reports = []

end Visit

namespace Branch

mutual

/-- The fields visited on a branch of a record, each before those of its nested
record. -/
@[simp] def visits (record : Record) : Branch → List Visit
  | leaf field descriptor => [⟨record, .leaf field descriptor⟩]
  | child field descriptor target branches =>
      ⟨record, .child field descriptor target branches⟩ ::
        visitsAmong target branches
  | cut field => [⟨record, .cut field⟩]
  | omitted field reports => [⟨record, .omitted field reports⟩]

/-- The fields visited on some branches of a record. -/
@[simp] def visitsAmong (record : Record) : List Branch → List Visit
  | [] => []
  | branch :: branches => visits record branch ++ visitsAmong record branches

end

mutual

/-- The diagnostics on a branch are those of the visits on it. -/
theorem reports_eq_flatMap (record : Record) (branch : Branch) :
    branch.reports record = (branch.visits record).flatMap Visit.reports := by
  cases branch with
  | leaf field descriptor => simp [Visit.reports]
  | child field descriptor target branches =>
      simp [Visit.reports, reportsAmong_eq_flatMap target branches]
  | cut field => simp [Visit.reports]
  | omitted field reports => simp [Visit.reports]

/-- The diagnostics on some branches are those of the visits on them. -/
theorem reportsAmong_eq_flatMap (record : Record) (branches : List Branch) :
    reportsAmong record branches =
      (visitsAmong record branches).flatMap Visit.reports := by
  cases branches with
  | nil => rfl
  | cons branch branches =>
      rw [reportsAmong, visitsAmong, List.flatMap_append,
        reports_eq_flatMap record branch, reportsAmong_eq_flatMap record branches]

end

end Branch

/-- The fields visited in a tree, depth first and in the order of the fields. -/
def Tree.visits (tree : Tree) : List Visit :=
  Branch.visitsAmong tree.record tree.branches

/-! ## Container fields -/

/-- A container field is accounted for if its type is a name, and is left out
without a word otherwise. -/
def Visit.Obeys (visit : Visit) (setting : Setting) : Prop :=
  ∀ descriptor, ContainerField setting visit.field descriptor →
    (visit.field.typeRef.IsNamed ∧ visit.IsAccounted) ∨
      (¬visit.field.typeRef.IsNamed ∧ visit.IsSilent)

/-- What the visits on the branches of some fields come to. -/
theorem Grown.obeys
    {setting : Setting}
    {path : List Key}
    {record : Record}
    {fields : List Field}
    {before after : Dependency.ScanCache}
    {branches : List Branch}
    (grown : Grown setting path record fields before branches after) :
    ∀ visit ∈ Branch.visitsAmong record branches, visit.Obeys setting := by
  induction grown with
  | done => simp
  | untagged undescribed _ inductionHypothesis =>
      refine List.forall_mem_cons.mpr ⟨?_, inductionHypothesis⟩
      rintro descriptor ⟨described, -⟩
      simp [Visit.field, undescribed] at described
  | leaf isLeaf _ inductionHypothesis =>
      refine List.forall_mem_cons.mpr ⟨?_, inductionHypothesis⟩
      intro descriptor isContainer
      exact absurd isContainer isLeaf.not_containerField
  | missing _ lookup _ inductionHypothesis =>
      refine List.forall_mem_cons.mpr ⟨?_, inductionHypothesis⟩
      intro descriptor _
      rcases diagnostics_of_nestedRecord_none lookup with
        ⟨named, omission, reported⟩ | ⟨unnamed, unreported⟩
      · exact .inl ⟨named, .inr ⟨rfl, omission, reported⟩⟩
      · exact .inr ⟨unnamed, rfl, unreported⟩
  | cut _ lookup _ _ inductionHypothesis =>
      refine List.forall_mem_cons.mpr ⟨?_, inductionHypothesis⟩
      intro descriptor _
      exact .inl ⟨isNamed_of_nestedRecord lookup, .inr ⟨rfl, .cycle, rfl⟩⟩
  | child _ lookup _ _ _ nestedHypothesis restHypothesis =>
      rw [Branch.visitsAmong, Branch.visits, List.cons_append]
      refine List.forall_mem_cons.mpr
        ⟨?_, List.forall_mem_append.mpr ⟨nestedHypothesis, restHypothesis⟩⟩
      intro descriptor _
      exact .inl ⟨isNamed_of_nestedRecord lookup, .inl ⟨rfl, rfl⟩⟩

theorem Visit.IsAccounted.not_isSilent
    {visit : Visit}
    (accounted : visit.IsAccounted) :
    ¬visit.IsSilent := by
  rintro ⟨notExpanded, unreported⟩
  rcases accounted with ⟨expanded, -⟩ | ⟨-, omission, reported⟩
  · simp [notExpanded] at expanded
  · simp [unreported] at reported

/-- A container field is accounted for exactly if its type is not composite, and
left out without a word exactly if it is. -/
theorem Visit.Obeys.isAccounted_iff
    {visit : Visit}
    {setting : Setting}
    (obeys : visit.Obeys setting)
    {descriptor : Tag.Descriptor}
    (isContainer : ContainerField setting visit.field descriptor) :
    (visit.IsAccounted ↔ ∀ text, visit.field.typeRef ≠ .composite text) ∧
      (visit.IsSilent ↔ ∃ text, visit.field.typeRef = .composite text) := by
  have named := TypeRef.isNamed_iff isContainer.2.1
  have composite : (∃ text, visit.field.typeRef = .composite text) ↔
      ¬visit.field.typeRef.IsNamed := by
    rw [named]
    simp
  rw [← named, composite]
  rcases obeys descriptor isContainer with ⟨isNamed, accounted⟩ | ⟨unnamed, silent⟩
  · exact ⟨iff_of_true accounted isNamed,
      iff_of_false accounted.not_isSilent (not_not_intro isNamed)⟩
  · exact ⟨iff_of_false (fun accounted => accounted.not_isSilent silent) unnamed,
      iff_of_true silent unnamed⟩

/-- An expansion fails, or its diagnostics are those of the fields it visits, one
after the other. A visited container field is then either expanded or reported
exactly once, under the names of its record and of the field, unless its type is
composite: such a field is neither expanded nor reported. For the lookup of a
nested record, whatever the type: when it finds none, it adds one diagnostic
about the field if the type is a name, and none otherwise. -/
theorem container_accounted_iff
    (setting : Setting)
    (state : State)
    (idle : state.active = [])
    (namePrefix : String)
    (record : Record) :
    ((∃ error, (expand setting state namePrefix record).1 = .error error) ∨
      ∃ tree : Tree, tree.record = record ∧
        tree.IsExpansion setting state.cache
          (expand setting state namePrefix record).2.cache ∧
        (expand setting state namePrefix record).2.diagnostics =
          state.diagnostics ++ tree.visits.flatMap Visit.reports ∧
        ∀ visit ∈ tree.visits, ∀ descriptor,
          ContainerField setting visit.field descriptor →
            (visit.IsAccounted ↔
              ∀ text, visit.field.typeRef ≠ .composite text) ∧
            (visit.IsSilent ↔
              ∃ text, visit.field.typeRef = .composite text)) ∧
      ∀ (current : State) (owner : Record) (field : Field) (next : State),
        nestedRecord setting current owner field = (.ok none, next) →
          (field.typeRef.IsNamed ∧ ∃ omission, next.diagnostics =
              current.diagnostics ++ [⟨owner.key, field.name, omission⟩]) ∨
            (¬field.typeRef.IsNamed ∧
              next.diagnostics = current.diagnostics) := by
  refine ⟨?_, fun _ _ _ _ => diagnostics_of_nestedRecord_none⟩
  rcases expanded : expand setting state namePrefix record with
    ⟨error | entries, last⟩
  · exact .inl ⟨error, rfl⟩
  · have fresh : record.key ∉ state.active := by simp [idle]
    obtain ⟨branches, grown, harvest⟩ :=
      expandWithin_follows setting _ fresh expanded
    rw [idle] at grown
    refine .inr ⟨⟨record, branches⟩, rfl, grown, ?_, ?_⟩
    · rw [harvest.diagnostics_eq, Branch.reportsAmong_eq_flatMap]
      rfl
    · intro visit visited descriptor isContainer
      exact (grown.obeys visit visited).isAccounted_iff isContainer

/-- A field that holds a list of records, with a prefix for them. -/
def listField : Field :=
  ⟨"Stores", "[]Store", "env:\",prefix=DB_\""⟩

/-- A record with a single record, a list of records, and a reference to
itself. -/
def listConfig : Record where
  file := ⟨"config.go", []⟩
  package := "app"
  name := "Config"
  fields := [
    ⟨"Primary", "Store", "env:\",prefix=PRIMARY_\""⟩,
    listField,
    ⟨"Self", "*Config", "env:\",prefix=SELF_\""⟩]
  imports := []

/-- The record that is held. -/
def listStore : Record where
  file := ⟨"config.go", []⟩
  package := "app"
  name := "Store"
  fields := [⟨"Host", "string", "env:\"HOST\""⟩]
  imports := []

/-- A project of these two records. -/
def listSetting : Setting where
  system := ⟨.directory [], []⟩
  graph := Graph.ofRecords [listConfig, listStore]
  scheme := {}
  resolver := ⟨⟨".", []⟩, "app", ⟨"vendor", []⟩, none⟩

theorem expand_listConfig :
    expand listSetting {} "" listConfig =
      (.ok [⟨"app", "PRIMARY_HOST", ""⟩],
        ⟨[], [⟨⟨"app", "Config"⟩, "Self", .cycle⟩], []⟩) := by
  decide +kernel

/-- The reference to itself is the only field of the record that is reported. -/
theorem exists_visits_listConfig :
    ∃ tree : Tree, tree.record = listConfig ∧
      tree.IsExpansion listSetting [] [] ∧
      tree.visits.flatMap Visit.reports = [⟨⟨"app", "Config"⟩, "Self", .cycle⟩] ∧
      ∀ visit ∈ tree.visits, ∀ descriptor,
        ContainerField listSetting visit.field descriptor →
          (visit.IsAccounted ↔
            ∀ text, visit.field.typeRef ≠ .composite text) := by
  obtain ⟨⟨error, failed⟩ | ⟨tree, isRecord, isTree, reports, accounted⟩, -⟩ :=
    container_accounted_iff listSetting {} rfl "" listConfig
  · simp [expand_listConfig] at failed
  · rw [expand_listConfig] at isTree reports
    refine ⟨tree, isRecord, isTree, reports.symm, ?_⟩
    intro visit visited descriptor isContainer
    exact (accounted visit visited descriptor isContainer).1

/-- The list of records is described as a container and its type is not builtin.
The expansion succeeds, and yet the list is neither expanded nor reported: its
lookup finds no record and adds no diagnostic. -/
theorem listField_left_out_unreported :
    ContainerField listSetting listField
        { variableName := "", isContainer := true, containerPrefix := "DB_" } ∧
      expand listSetting {} "" listConfig =
        (.ok [⟨"app", "PRIMARY_HOST", ""⟩],
          ⟨[], [⟨⟨"app", "Config"⟩, "Self", .cycle⟩], []⟩) ∧
      nestedRecord listSetting {} listConfig listField = (.ok none, {}) := by
  refine ⟨⟨?_, ?_, rfl⟩, expand_listConfig, ?_⟩
  · decide +kernel
  · decide +kernel
  · decide +kernel

end Expansion
end EnvTags
