import EnvTags.Expansion.Bound

/-!
# What one step of an expansion can do

The lookup of a nested record reads the scanned directories and nothing else of
the state, adds diagnostics that are never about cycles, and leaves the records
being expanded alone. The treatment of one field is one of six steps, listed in
`FieldStep`. From that list follows what a whole row of fields preserves.
-/

namespace EnvTags
namespace Expansion

namespace State

@[simp] theorem report_cache
    (state : State)
    (record : Record)
    (field : Field)
    (omission : Omission) :
    (state.report record field omission).cache = state.cache := rfl

@[simp] theorem report_diagnostics
    (state : State)
    (record : Record)
    (field : Field)
    (omission : Omission) :
    (state.report record field omission).diagnostics =
      state.diagnostics ++ [⟨record.key, field.name, omission⟩] := rfl

@[simp] theorem report_active
    (state : State)
    (record : Record)
    (field : Field)
    (omission : Omission) :
    (state.report record field omission).active = state.active := rfl

@[simp] theorem enter_cache (state : State) (key : Key) :
    (state.enter key).cache = state.cache := rfl

@[simp] theorem enter_diagnostics (state : State) (key : Key) :
    (state.enter key).diagnostics = state.diagnostics := rfl

/-- Entering a record adds its key to those being expanded. -/
@[simp] theorem mem_enter_active
    (state : State)
    (key other : Key) :
    other ∈ (state.enter key).active ↔ other = key ∨ other ∈ state.active := by
  by_cases present : key ∈ state.active
  · simp only [enter, if_pos present]
    constructor
    · exact Or.inr
    · rintro (rfl | inside)
      · exact present
      · exact inside
  · simp [enter, present]

/-- A record that is not being expanded is put in front by entering it. -/
theorem enter_active_of_notMem
    (state : State)
    (key : Key)
    (fresh : key ∉ state.active) :
    (state.enter key).active = key :: state.active := by
  simp [enter, fresh]

@[simp] theorem leave_cache (state : State) (key : Key) :
    (state.leave key).cache = state.cache := rfl

@[simp] theorem leave_diagnostics (state : State) (key : Key) :
    (state.leave key).diagnostics = state.diagnostics := rfl

/-- Leaving a record undoes that it was entered. -/
theorem leave_active_of_cons
    {state : State}
    {key : Key}
    {active : List Key}
    (entered : state.active = key :: active)
    (fresh : key ∉ active) :
    (state.leave key).active = active := by
  simp only [leave, entered, List.filter_cons, ne_eq, not_true_eq_false,
    decide_false, Bool.false_eq_true, if_false]
  rw [List.filter_eq_self]
  intro other inside
  have different : other ≠ key := by
    rintro rfl
    exact fresh inside
  simp [different]

/-- The state in which a step ends when it starts from `state`, where `next` is
the state in which it ends when nothing but the scanned directories is known. -/
def resume (state next : State) : State :=
  ⟨next.cache, state.diagnostics ++ next.diagnostics, state.active⟩

end State

/-! ## The lookup of a nested record -/

/-- A lookup reads the scanned directories only, adds to the diagnostics, and
leaves the records being expanded alone. -/
theorem nestedRecord_eq_resume
    (setting : Setting)
    (state : State)
    (record : Record)
    (field : Field) :
    nestedRecord setting state record field =
      ((nestedRecord setting { cache := state.cache } record field).1,
        state.resume
          (nestedRecord setting { cache := state.cache } record field).2) := by
  unfold nestedRecord
  cases field.typeRef with
  | builtin type => simp [State.resume]
  | composite text => simp [State.resume]
  | unqualified name =>
      simp only [sibling]
      cases setting.graph.find? ⟨record.package, name⟩ with
      | some found => simp [State.resume]
      | none =>
          rcases Dependency.scanPackage setting.system state.cache
            record.directory record.package with ⟨_ | records, cache⟩
          · simp [State.resume]
          · simp only
            cases records.find? fun candidate => candidate.name = name <;>
              simp [State.resume, State.report]
  | qualified package name =>
      simp only [imported]
      rcases setting.resolver.resolve setting.system setting.graph state.cache
        package name record.imports with ⟨_ | _ | _ | _, cache⟩ <;>
        simp [State.resume, State.report]

/-- A lookup leaves the records being expanded alone. -/
@[simp] theorem nestedRecord_active
    (setting : Setting)
    (state : State)
    (record : Record)
    (field : Field) :
    (nestedRecord setting state record field).2.active = state.active := by
  rw [nestedRecord_eq_resume]
  rfl

/-- The ways in which the record of a container field is looked up. -/
inductive LookupStep
    (setting : Setting)
    (state : State)
    (record : Record)
    (field : Field) : Step (Option Record) → Prop
  | unnamed
      (notUnqualified : ∀ name, field.typeRef ≠ .unqualified name)
      (notQualified : ∀ package name,
        field.typeRef ≠ .qualified package name) :
      LookupStep setting state record field (.ok none, state)
  | inGraph
      (name : String)
      (unqualified : field.typeRef = .unqualified name)
      (target : Record)
      (known : setting.graph.find? ⟨record.package, name⟩ = some target) :
      LookupStep setting state record field (.ok (some target), state)
  | unreadable
      (name : String)
      (unqualified : field.typeRef = .unqualified name)
      (unknown : setting.graph.find? ⟨record.package, name⟩ = none)
      (error : AnalysisError)
      (cache : Dependency.ScanCache)
      (failed : Dependency.scanPackage setting.system state.cache
        record.directory record.package = (.error error, cache)) :
      LookupStep setting state record field
        (.error error, { state with cache := cache })
  | declared
      (name : String)
      (unqualified : field.typeRef = .unqualified name)
      (unknown : setting.graph.find? ⟨record.package, name⟩ = none)
      (records : List Record)
      (cache : Dependency.ScanCache)
      (scanned : Dependency.scanPackage setting.system state.cache
        record.directory record.package = (.ok records, cache))
      (target : Record)
      (found : (records.find? fun candidate => candidate.name = name) =
        some target) :
      LookupStep setting state record field
        (.ok (some target), { state with cache := cache })
  | undeclared
      (name : String)
      (unqualified : field.typeRef = .unqualified name)
      (unknown : setting.graph.find? ⟨record.package, name⟩ = none)
      (records : List Record)
      (cache : Dependency.ScanCache)
      (scanned : Dependency.scanPackage setting.system state.cache
        record.directory record.package = (.ok records, cache))
      (absent : (records.find? fun candidate => candidate.name = name) = none) :
      LookupStep setting state record field
        (.ok none, State.report { state with cache := cache } record field
          (.typeNotFound name))
  | unresolvable
      (package name : String)
      (qualified : field.typeRef = .qualified package name)
      (error : AnalysisError)
      (cache : Dependency.ScanCache)
      (failed : setting.resolver.resolve setting.system setting.graph
        state.cache package name record.imports = (.error error, cache)) :
      LookupStep setting state record field
        (.error error, { state with cache := cache })
  | resolved
      (package name : String)
      (qualified : field.typeRef = .qualified package name)
      (target : Record)
      (cache : Dependency.ScanCache)
      (found : setting.resolver.resolve setting.system setting.graph
        state.cache package name record.imports = (.ok (.found target), cache)) :
      LookupStep setting state record field
        (.ok (some target), { state with cache := cache })
  | unresolved
      (package name : String)
      (qualified : field.typeRef = .qualified package name)
      (resolution : Dependency.Resolution)
      (omission : Omission)
      (cache : Dependency.ScanCache)
      (resolved : setting.resolver.resolve setting.system setting.graph
        state.cache package name record.imports = (.ok resolution, cache))
      (reported : (resolution = .importNotMatched ∧
          omission = .importNotMatched package) ∨
        ∃ importPath, resolution = .notFound importPath ∧
          omission = .dependencyNotFound importPath name) :
      LookupStep setting state record field
        (.ok none, State.report { state with cache := cache } record field
          omission)

/-- Every lookup is one of these steps. -/
theorem nestedRecord_step
    (setting : Setting)
    (state : State)
    (record : Record)
    (field : Field) :
    LookupStep setting state record field
      (nestedRecord setting state record field) := by
  unfold nestedRecord
  cases typeRef : field.typeRef with
  | builtin type => exact .unnamed (by simp [typeRef]) (by simp [typeRef])
  | composite text => exact .unnamed (by simp [typeRef]) (by simp [typeRef])
  | unqualified name =>
      simp only [sibling]
      cases known : setting.graph.find? ⟨record.package, name⟩ with
      | some target => exact .inGraph name typeRef target known
      | none =>
          rcases scanned : Dependency.scanPackage setting.system state.cache
            record.directory record.package with ⟨error | records, cache⟩
          · exact .unreadable name typeRef known error cache scanned
          · simp only
            cases found : records.find? fun candidate =>
                candidate.name = name with
            | some target =>
                exact .declared name typeRef known records cache scanned target
                  found
            | none =>
                exact .undeclared name typeRef known records cache scanned found
  | qualified package name =>
      simp only [imported]
      rcases resolved : setting.resolver.resolve setting.system setting.graph
        state.cache package name record.imports with
        ⟨error | target | _ | importPath, cache⟩
      · exact .unresolvable package name typeRef error cache resolved
      · exact .resolved package name typeRef target cache resolved
      · exact .unresolved package name typeRef _ _ cache resolved
          (.inl ⟨rfl, rfl⟩)
      · exact .unresolved package name typeRef _ _ cache resolved
          (.inr ⟨importPath, rfl, rfl⟩)

/-- The diagnostics of a lookup are not about cycles. -/
theorem nestedRecord_omission_ne_cycle
    (setting : Setting)
    (cache : Dependency.ScanCache)
    (record : Record)
    (field : Field)
    {diagnostic : Diagnostic}
    (reported : diagnostic ∈
      (nestedRecord setting { cache := cache } record field).2.diagnostics) :
    diagnostic.omission ≠ .cycle := by
  have step := nestedRecord_step setting { cache := cache } record field
  generalize nestedRecord setting { cache := cache } record field = result
    at step reported
  cases step with
  | unnamed => cases reported
  | inGraph => cases reported
  | unreadable => cases reported
  | declared => cases reported
  | unresolvable => cases reported
  | resolved => cases reported
  | undeclared name =>
      obtain rfl : diagnostic = ⟨record.key, field.name, .typeNotFound name⟩ := by
        simpa using reported
      simp
  | unresolved package name qualified resolution omission next resolved shown =>
      obtain rfl : diagnostic = ⟨record.key, field.name, omission⟩ := by
        simpa using reported
      rcases shown with ⟨-, rfl⟩ | ⟨importPath, -, rfl⟩ <;> simp

/-- A lookup that finds a record reports nothing. -/
theorem nestedRecord_diagnostics_of_found
    {setting : Setting}
    {cache : Dependency.ScanCache}
    {record target : Record}
    {field : Field}
    {own : State}
    (lookup : nestedRecord setting { cache := cache } record field =
      (.ok (some target), own)) :
    own.diagnostics = [] := by
  have step := nestedRecord_step setting { cache := cache } record field
  rw [lookup] at step
  cases step <;> rfl

/-! ## The treatment of one field -/

/-- The field is one variable: it is described, and its type is builtin or it is
no container. -/
def LeafField
    (setting : Setting)
    (field : Field)
    (descriptor : Tag.Descriptor) : Prop :=
  setting.scheme.describe field.tag = some descriptor ∧
    (field.typeRef.isBuiltin = true ∨ descriptor.isContainer = false)

/-- The field stands for a nested record: it is described as a container, and
its type is not builtin. -/
def ContainerField
    (setting : Setting)
    (field : Field)
    (descriptor : Tag.Descriptor) : Prop :=
  setting.scheme.describe field.tag = some descriptor ∧
    field.typeRef.isBuiltin = false ∧ descriptor.isContainer = true

/-- The diagnostics about a field without a description. -/
def untaggedReports (record : Record) (field : Field) : List Diagnostic :=
  if field.typeRef.isBuiltin then [⟨record.key, field.name, .untagged⟩] else []

/-- What the treatment of a field can be, and its result in each case. -/
inductive FieldStep
    (setting : Setting)
    (expander : Expander)
    (namePrefix : String)
    (record : Record)
    (field : Field)
    (state : State) : Step (List Variable) → Prop
  /-- The field has no description. -/
  | untagged
      (undescribed : setting.scheme.describe field.tag = none) :
      FieldStep setting expander namePrefix record field state
        (.ok [], state.resume ⟨state.cache, untaggedReports record field, []⟩)
  /-- The field is one variable. -/
  | leaf
      (descriptor : Tag.Descriptor)
      (isLeaf : LeafField setting field descriptor) :
      FieldStep setting expander namePrefix record field state
        (.ok [Expansion.leaf namePrefix record descriptor], state)
  /-- The lookup of the nested record fails. -/
  | failed
      (descriptor : Tag.Descriptor)
      (isContainer : ContainerField setting field descriptor)
      (error : AnalysisError)
      (next : State)
      (lookup : nestedRecord setting state record field = (.error error, next)) :
      FieldStep setting expander namePrefix record field state
        (.error error, next)
  /-- There is no nested record. -/
  | missing
      (descriptor : Tag.Descriptor)
      (isContainer : ContainerField setting field descriptor)
      (next : State)
      (lookup : nestedRecord setting state record field = (.ok none, next)) :
      FieldStep setting expander namePrefix record field state (.ok [], next)
  /-- The nested record is being expanded already. -/
  | cycle
      (descriptor : Tag.Descriptor)
      (isContainer : ContainerField setting field descriptor)
      (target : Record)
      (next : State)
      (lookup : nestedRecord setting state record field =
        (.ok (some target), next))
      (active : target.key ∈ next.active) :
      FieldStep setting expander namePrefix record field state
        (.ok [], next.report record field .cycle)
  /-- The nested record is expanded. -/
  | nested
      (descriptor : Tag.Descriptor)
      (isContainer : ContainerField setting field descriptor)
      (target : Record)
      (next : State)
      (lookup : nestedRecord setting state record field =
        (.ok (some target), next))
      (fresh : target.key ∉ next.active) :
      FieldStep setting expander namePrefix record field state
        (expander next (namePrefix ++ descriptor.containerPrefix) target)

/-- The treatment of a field is one of the listed steps. -/
theorem expandField_step
    (setting : Setting)
    (expander : Expander)
    (namePrefix : String)
    (record : Record)
    (field : Field)
    (state : State) :
    FieldStep setting expander namePrefix record field state
      (expandField setting expander namePrefix record field state) := by
  unfold expandField
  cases described : setting.scheme.describe field.tag with
  | none =>
      have step : FieldStep setting expander namePrefix record field state _ :=
        .untagged described
      cases builtin : field.typeRef.isBuiltin <;>
        simpa [untaggedReports, builtin, State.resume, State.report] using step
  | some descriptor =>
      by_cases isLeaf : field.typeRef.isBuiltin || !descriptor.isContainer
      · simp only [if_pos isLeaf]
        exact .leaf descriptor ⟨described, by simpa using isLeaf⟩
      · simp only [if_neg isLeaf]
        have isContainer : ContainerField setting field descriptor :=
          ⟨described, by simpa using isLeaf⟩
        unfold expandContainer
        rcases lookup : nestedRecord setting state record field with
          ⟨error | _ | target, next⟩
        · exact .failed descriptor isContainer error next lookup
        · exact .missing descriptor isContainer next lookup
        · by_cases active : target.key ∈ next.active
          · simp only [if_pos active]
            exact .cycle descriptor isContainer target next lookup active
          · simp only [if_neg active]
            exact .nested descriptor isContainer target next lookup active

/-! ## Rows of fields -/

/-- A row of fields succeeds exactly when its first field and the others do. -/
theorem expandFields_cons_eq_ok_iff
    {setting : Setting}
    {expander : Expander}
    {namePrefix : String}
    {record : Record}
    {field : Field}
    {fields : List Field}
    {state last : State}
    {entries : List Variable} :
    expandFields setting expander namePrefix record (field :: fields) state =
        (.ok entries, last) ↔
      ∃ first middle others,
        expandField setting expander namePrefix record field state =
          (.ok first, middle) ∧
        expandFields setting expander namePrefix record fields middle =
          (.ok others, last) ∧
        entries = first ++ others := by
  constructor
  · intro succeeded
    simp only [expandFields] at succeeded
    rcases head : expandField setting expander namePrefix record field state
      with ⟨_ | first, middle⟩
    · simp [head] at succeeded
    · rcases rest : expandFields setting expander namePrefix record fields middle
        with ⟨_ | others, final⟩
      · simp [head, rest] at succeeded
      · simp only [head, rest, Prod.mk.injEq, Except.ok.injEq] at succeeded
        obtain ⟨rfl, rfl⟩ := succeeded
        exact ⟨first, middle, others, rfl, rest, rfl⟩
  · rintro ⟨first, middle, others, head, rest, rfl⟩
    simp [expandFields, head, rest]

/-- What every field of a row keeps, the row keeps, whether it succeeds or
not. -/
theorem expandFields_keeps
    {setting : Setting}
    {expander : Expander}
    {namePrefix : String}
    {record : Record}
    (holds : State → Prop)
    {fields : List Field}
    (kept : ∀ field ∈ fields, ∀ state, holds state →
      holds (expandField setting expander namePrefix record field state).2)
    {state : State}
    (start : holds state) :
    holds (expandFields setting expander namePrefix record fields state).2 := by
  induction fields generalizing state with
  | nil => exact start
  | cons field fields inductionHypothesis =>
      have next := kept field List.mem_cons_self state start
      have rest := fun field inside =>
        kept field (List.mem_cons_of_mem _ inside)
      simp only [expandFields]
      rcases result : expandField setting expander namePrefix record field state
        with ⟨_ | first, middle⟩
      · simpa [result] using next
      · simp only [result] at next
        have last := inductionHypothesis rest next
        rcases others : expandFields setting expander namePrefix record fields
          middle with ⟨_ | entries, final⟩ <;>
          simpa [others] using last

/-- The expansion of a record that is not being expanded leaves the records
being expanded as they are. -/
def Expander.KeepsActive (expander : Expander) : Prop :=
  ∀ (state : State) (namePrefix : String) (record : Record),
    record.key ∉ state.active →
      (expander state namePrefix record).2.active = state.active

/-- A field leaves the records being expanded as they are. -/
theorem expandField_active
    {expander : Expander}
    (keepsActive : expander.KeepsActive)
    (setting : Setting)
    (namePrefix : String)
    (record : Record)
    (field : Field)
    (state : State) :
    (expandField setting expander namePrefix record field state).2.active =
      state.active := by
  have unchanged := nestedRecord_active setting state record field
  have step :=
    expandField_step setting expander namePrefix record field state
  generalize expandField setting expander namePrefix record field state = result
    at step ⊢
  cases step with
  | untagged undescribed => rfl
  | leaf descriptor isLeaf => rfl
  | failed descriptor isContainer error next lookup =>
      simpa [lookup] using unchanged
  | missing descriptor isContainer next lookup =>
      simpa [lookup] using unchanged
  | cycle descriptor isContainer target next lookup active =>
      simpa [lookup] using unchanged
  | nested descriptor isContainer target next lookup fresh =>
      rw [keepsActive next _ target fresh]
      simpa [lookup] using unchanged

/-- A row of fields leaves the records being expanded as they are. -/
theorem expandFields_active
    {expander : Expander}
    (keepsActive : expander.KeepsActive)
    (setting : Setting)
    (namePrefix : String)
    (record : Record)
    (fields : List Field)
    (state : State) :
    (expandFields setting expander namePrefix record fields state).2.active =
      state.active := by
  apply expandFields_keeps fun other => other.active = state.active
  · intro field _ other same
    rw [expandField_active keepsActive, same]
  · rfl

/-- Within any depth, the records being expanded are the same before and
after. -/
theorem expandWithin_keepsActive
    (setting : Setting)
    (depth : Nat) :
    (expandWithin setting depth).KeepsActive := by
  induction depth with
  | zero =>
      intro state namePrefix record fresh
      rfl
  | succ depth inductionHypothesis =>
      intro state namePrefix record fresh
      have entered := expandFields_active inductionHypothesis setting namePrefix
        record record.fields (state.enter record.key)
      rw [State.enter_active_of_notMem state record.key fresh] at entered
      exact State.leave_active_of_cons entered fresh

end Expansion
end EnvTags
