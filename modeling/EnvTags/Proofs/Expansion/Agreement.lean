import EnvTags.Proofs.Expansion.Depth

/-!
# Expansions in two settings

Two settings agree up to an excuse: each lookup gives the same in both, unless
the excuse covers what it gives in the first one. An excuse is an error, or that
too much has been scanned. It is never taken back, since an error ends an
expansion and the scanned directories only grow. So whole expansions agree up to
the same excuse.
-/

namespace EnvTags

namespace Dependency

/-- A scan keeps the directories known before. -/
theorem suffix_scanPackage
    (system : FileSystem)
    (cache : ScanCache)
    (directory : Path)
    (package : String) :
    cache <:+ (scanPackage system cache directory package).2 := by
  unfold scanPackage
  cases cache.records? directory with
  | some records => exact List.suffix_rfl
  | none =>
      cases packageRecords system directory package with
      | error error => exact List.suffix_rfl
      | ok records => exact List.suffix_cons _ _

/-- A resolution keeps the directories known before. -/
theorem Resolver.suffix_resolve
    (resolver : Resolver)
    (system : FileSystem)
    (graph : Graph)
    (cache : ScanCache)
    (packageName typeName : String)
    (imports : List Import) :
    cache <:+
      (resolver.resolve system graph cache packageName typeName imports).2 := by
  have step := resolver.resolve_step system graph cache packageName typeName
    imports
  generalize resolver.resolve system graph cache packageName typeName imports =
    result at step ⊢
  cases step with
  | unmatched | inGraph | unlocatable | unlocated => exact List.suffix_rfl
  | unreadable imported bound unknown directory located error next scanned
  | undeclared imported bound unknown directory located records next scanned
  | declared imported bound unknown directory located records next scanned =>
      have grows := suffix_scanPackage system cache directory imported.path
      rwa [scanned] at grows

end Dependency

namespace Expansion

/-! ## The scanned directories only grow -/

/-- A lookup keeps the directories scanned before. -/
theorem suffix_nestedRecord
    (setting : Setting)
    (state : State)
    (record : Record)
    (field : Field) :
    state.cache <:+ (nestedRecord setting state record field).2.cache := by
  have step := nestedRecord_step setting state record field
  generalize nestedRecord setting state record field = result at step ⊢
  have scans := Dependency.suffix_scanPackage setting.system state.cache
    record.directory record.package
  have resolves := fun package name =>
    setting.resolver.suffix_resolve setting.system setting.graph state.cache
      package name record.imports
  cases step with
  | unnamed | inGraph => exact List.suffix_rfl
  | unreadable name unqualified unknown error cache scanned
  | declared name unqualified unknown records cache scanned
  | undeclared name unqualified unknown records cache scanned =>
      simpa [scanned] using scans
  | unresolvable package name qualified error cache resolved
  | resolved package name qualified target cache resolved
  | unresolved package name qualified resolution omission cache resolved =>
      simpa [resolved] using resolves package name

/-- An expander keeps the directories scanned before. -/
def Expander.Grows (expander : Expander) : Prop :=
  ∀ (state : State) (namePrefix : String) (record : Record),
    state.cache <:+ (expander state namePrefix record).2.cache

theorem suffix_expandField
    {expander : Expander}
    (grows : expander.Grows)
    (setting : Setting)
    (namePrefix : String)
    (record : Record)
    (field : Field)
    (state : State) :
    state.cache <:+
      (expandField setting expander namePrefix record field state).2.cache := by
  have lookedUp := suffix_nestedRecord setting state record field
  have step := expandField_step setting expander namePrefix record field state
  generalize expandField setting expander namePrefix record field state = result
    at step ⊢
  cases step with
  | untagged | leaf => exact List.suffix_rfl
  | failed descriptor isContainer error next lookup
  | missing descriptor isContainer next lookup
  | cycle descriptor isContainer target next lookup =>
      simpa [lookup] using lookedUp
  | nested descriptor isContainer target next lookup fresh =>
      rw [lookup] at lookedUp
      exact lookedUp.trans (grows next _ target)

/-- What two steps give together, one after the other. The first error counts. -/
def inSequence
    (first : Step (List Variable))
    (rest : State → Step (List Variable)) : Step (List Variable) :=
  match first with
  | (.error error, next) => (.error error, next)
  | (.ok entries, next) =>
      match rest next with
      | (.error error, last) => (.error error, last)
      | (.ok others, last) => (.ok (entries ++ others), last)

theorem expandFields_cons
    (setting : Setting)
    (expander : Expander)
    (namePrefix : String)
    (record : Record)
    (field : Field)
    (fields : List Field)
    (state : State) :
    expandFields setting expander namePrefix record (field :: fields) state =
      inSequence (expandField setting expander namePrefix record field state)
        (expandFields setting expander namePrefix record fields) := rfl

theorem expandAll_cons
    (expander : Expander)
    (record : Record)
    (records : List Record)
    (state : State) :
    expandAll expander (record :: records) state =
      inSequence (expander state "" record) (expandAll expander records) := rfl

theorem suffix_inSequence
    {rest : State → Step (List Variable)}
    (grows : ∀ next : State, next.cache <:+ (rest next).2.cache)
    (first : Step (List Variable)) :
    first.2.cache <:+ (inSequence first rest).2.cache := by
  rcases first with ⟨error | entries, next⟩
  · exact List.suffix_rfl
  · have grown := grows next
    rw [inSequence]
    rcases others : rest next with ⟨error | more, last⟩ <;>
      simpa [others] using grown

theorem suffix_expandFields
    {expander : Expander}
    (grows : expander.Grows)
    (setting : Setting)
    (namePrefix : String)
    (record : Record)
    (fields : List Field)
    (state : State) :
    state.cache <:+
      (expandFields setting expander namePrefix record fields state).2.cache := by
  induction fields generalizing state with
  | nil => exact List.suffix_rfl
  | cons field fields inductionHypothesis =>
      rw [expandFields_cons]
      exact (suffix_expandField grows setting namePrefix record field state).trans
        (suffix_inSequence inductionHypothesis _)

/-- Within any depth an expansion keeps the directories scanned before. -/
theorem expandWithin_grows (setting : Setting) (depth : Nat) :
    (expandWithin setting depth).Grows := by
  induction depth with
  | zero =>
      intro state namePrefix record
      exact List.suffix_rfl
  | succ depth inductionHypothesis =>
      intro state namePrefix record
      exact suffix_expandFields inductionHypothesis setting namePrefix record
        record.fields (state.enter record.key)

/-- The expansions of some records keep the directories scanned before. -/
theorem suffix_expandAll
    {expander : Expander}
    (grows : expander.Grows)
    (records : List Record)
    (state : State) :
    state.cache <:+ (expandAll expander records state).2.cache := by
  induction records generalizing state with
  | nil => exact List.suffix_rfl
  | cons record records inductionHypothesis =>
      rw [expandAll_cons]
      exact (grows state "" record).trans
        (suffix_inSequence inductionHypothesis _)

/-! ## Excuses -/

/-- What can excuse a step from being the same in another setting. -/
structure Excuse where
  /-- The errors that are an excuse. -/
  ofError : AnalysisError → Prop
  /-- The scanned directories that are an excuse. -/
  ofCache : Dependency.ScanCache → Prop
  /-- Scanning more is no less of an excuse. -/
  ofCache_of_suffix : ∀ {cache next : Dependency.ScanCache},
    cache <:+ next → ofCache cache → ofCache next

/-- The answer of a scan or a resolution is excused. -/
def Excuse.CoversScan
    (excuse : Excuse)
    {α : Type}
    (answer : Except AnalysisError α × Dependency.ScanCache) : Prop :=
  (∃ error, answer.1 = .error error ∧ excuse.ofError error) ∨
    excuse.ofCache answer.2

/-- Another answer is the same as this one, unless this one is excused. -/
def Excuse.AgreesOnScan
    (excuse : Excuse)
    {α : Type}
    (answer other : Except AnalysisError α × Dependency.ScanCache) : Prop :=
  other = answer ∨ excuse.CoversScan answer

/-- A step is excused. -/
def Excuse.Covers (excuse : Excuse) {α : Type} (step : Step α) : Prop :=
  excuse.CoversScan (step.1, step.2.cache)

/-- Another step is the same as this one, unless this one is excused. -/
def Excuse.Agrees (excuse : Excuse) {α : Type} (step other : Step α) : Prop :=
  other = step ∨ excuse.Covers step

/-- Each lookup gives the same in another setting, unless it is excused. -/
structure Agreement (excuse : Excuse) (setting other : Setting) : Prop where
  scheme_eq : other.scheme = setting.scheme
  lookup : ∀ (state : State) (record : Record) (field : Field),
    excuse.Agrees (nestedRecord setting state record field)
      (nestedRecord other state record field)

/-- Expanders agree up to an excuse. -/
def Expander.Agrees (excuse : Excuse) (expander other : Expander) : Prop :=
  ∀ (state : State) (namePrefix : String) (record : Record),
    excuse.Agrees (expander state namePrefix record)
      (other state namePrefix record)

variable {excuse : Excuse}

/-! ## Lookups -/

section Lookups

variable {setting other : Setting} {state : State} {record : Record}

/-- A record of the same package is looked up alike if scans are alike. -/
theorem sibling_agrees
    (sameGraph : other.graph = setting.graph)
    (scans : excuse.AgreesOnScan
      (Dependency.scanPackage setting.system state.cache record.directory
        record.package)
      (Dependency.scanPackage other.system state.cache record.directory
        record.package))
    (field : Field)
    (name : String) :
    excuse.Agrees (sibling setting state record field name)
      (sibling other state record field name) := by
  unfold sibling
  rw [sameGraph]
  cases setting.graph.find? ⟨record.package, name⟩ with
  | some found => exact .inl rfl
  | none =>
      rcases scans with same | covered
      · exact .inl (by rw [same])
      · refine .inr ?_
        simp only
        generalize Dependency.scanPackage setting.system state.cache
          record.directory record.package = answer at covered ⊢
        rcases answer with ⟨error | records, cache⟩
        · simpa [Excuse.Covers, Excuse.CoversScan] using covered
        · have scanned : excuse.ofCache cache := by
            simpa [Excuse.CoversScan] using covered
          simp only
          split <;> exact .inr scanned

/-- A record of an imported package is looked up alike if resolutions are
alike. -/
theorem imported_agrees
    {package name : String}
    (resolves : excuse.AgreesOnScan
      (setting.resolver.resolve setting.system setting.graph state.cache package
        name record.imports)
      (other.resolver.resolve other.system other.graph state.cache package name
        record.imports))
    (field : Field) :
    excuse.Agrees (imported setting state record field package name)
      (imported other state record field package name) := by
  unfold imported
  rcases resolves with same | covered
  · exact .inl (by rw [same])
  · refine .inr ?_
    generalize setting.resolver.resolve setting.system setting.graph state.cache
      package name record.imports = answer at covered ⊢
    rcases answer with ⟨error | resolution, cache⟩
    · simpa [Excuse.Covers, Excuse.CoversScan] using covered
    · have scanned : excuse.ofCache cache := by
        simpa [Excuse.CoversScan] using covered
      cases resolution <;> exact .inr scanned

end Lookups

/-! ## Expansions -/

/-- Two steps one after the other agree if each of them does. -/
theorem Excuse.Agrees.inSequence
    {first otherFirst : Step (List Variable)}
    {rest otherRest : State → Step (List Variable)}
    (firstAgrees : excuse.Agrees first otherFirst)
    (restAgrees : ∀ next, excuse.Agrees (rest next) (otherRest next))
    (grows : ∀ next : State, next.cache <:+ (rest next).2.cache) :
    excuse.Agrees (Expansion.inSequence first rest)
      (Expansion.inSequence otherFirst otherRest) := by
  rcases firstAgrees with rfl | ⟨error, failed, excused⟩ | scanned
  · rcases otherFirst with ⟨error | entries, next⟩
    · exact .inl rfl
    · rcases restAgrees next with same | ⟨error, failed, excused⟩ | scanned
      · exact .inl (by simp only [Expansion.inSequence, same])
      · refine .inr (.inl ⟨error, ?_, excused⟩)
        rcases others : rest next with ⟨cause | more, last⟩
        · rw [others] at failed
          simpa [Expansion.inSequence, others] using failed
        · simp [others] at failed
      · refine .inr (.inr ?_)
        rcases others : rest next with ⟨cause | more, last⟩ <;>
          simpa [Expansion.inSequence, others] using scanned
  · rcases first with ⟨cause | entries, next⟩
    · exact .inr (.inl ⟨error, failed, excused⟩)
    · simp at failed
  · exact .inr (.inr
      (excuse.ofCache_of_suffix (suffix_inSequence grows first) scanned))

/-- If a lookup is excused, so is what becomes of the container field. -/
theorem Excuse.Covers.expandContainer
    {setting : Setting}
    {expander : Expander}
    (grows : expander.Grows)
    {record : Record}
    {field : Field}
    {state : State}
    (covered : excuse.Covers (nestedRecord setting state record field))
    (namePrefix : String)
    (descriptor : Tag.Descriptor) :
    excuse.Covers (Expansion.expandContainer setting expander namePrefix record
      field descriptor state) := by
  unfold Expansion.expandContainer
  generalize nestedRecord setting state record field = lookup at covered ⊢
  rcases lookup with ⟨error | _ | target, next⟩
  · simpa [Covers, CoversScan] using covered
  · simpa [Covers, CoversScan] using covered
  · have scanned : excuse.ofCache next.cache := by simpa [Covers, CoversScan] using covered
    simp only
    split
    · exact .inr scanned
    · exact .inr (excuse.ofCache_of_suffix (grows next _ target) scanned)

section Agreement

variable {setting other : Setting} (agreement : Agreement excuse setting other)
include agreement

theorem expandField_agrees
    {expander otherExpander : Expander}
    (agrees : expander.Agrees excuse otherExpander)
    (grows : expander.Grows)
    (namePrefix : String)
    (record : Record)
    (field : Field)
    (state : State) :
    excuse.Agrees (expandField setting expander namePrefix record field state)
      (expandField other otherExpander namePrefix record field state) := by
  unfold expandField
  rw [agreement.scheme_eq]
  cases setting.scheme.describe field.tag with
  | none => exact .inl rfl
  | some descriptor =>
      simp only
      split
      · exact .inl rfl
      · rcases agreement.lookup state record field with same | covered
        · unfold expandContainer
          rw [same]
          rcases nestedRecord setting state record field with
            ⟨error | _ | target, next⟩
          · exact .inl rfl
          · exact .inl rfl
          · simp only
            split
            · exact .inl rfl
            · exact agrees next _ target
        · exact .inr (covered.expandContainer grows namePrefix descriptor)

theorem expandFields_agrees
    {expander otherExpander : Expander}
    (agrees : expander.Agrees excuse otherExpander)
    (grows : expander.Grows)
    (namePrefix : String)
    (record : Record)
    (fields : List Field)
    (state : State) :
    excuse.Agrees (expandFields setting expander namePrefix record fields state)
      (expandFields other otherExpander namePrefix record fields state) := by
  induction fields generalizing state with
  | nil => exact .inl rfl
  | cons field fields inductionHypothesis =>
      rw [expandFields_cons, expandFields_cons]
      exact (expandField_agrees agreement agrees grows namePrefix record field
        state).inSequence inductionHypothesis
          (suffix_expandFields grows setting namePrefix record fields)

/-- Within any depth, expansions agree as lookups do. -/
theorem expandWithin_agrees (depth : Nat) :
    (expandWithin setting depth).Agrees excuse (expandWithin other depth) := by
  induction depth with
  | zero =>
      intro state namePrefix record
      exact .inl rfl
  | succ depth inductionHypothesis =>
      intro state namePrefix record
      rcases expandFields_agrees agreement inductionHypothesis
        (expandWithin_grows setting depth) namePrefix record record.fields
        (state.enter record.key) with same | excused
      · exact .inl (by rw [expandWithin, expandWithin, same])
      · exact .inr excused

theorem expandAll_agrees
    (depth : Nat)
    (records : List Record)
    (state : State) :
    excuse.Agrees (expandAll (expandWithin setting depth) records state)
      (expandAll (expandWithin other depth) records state) := by
  induction records generalizing state with
  | nil => exact .inl (by rw [expandAll, expandAll])
  | cons record records inductionHypothesis =>
      rw [expandAll_cons, expandAll_cons]
      exact (expandWithin_agrees agreement depth state "" record).inSequence
        inductionHypothesis
          (suffix_expandAll (expandWithin_grows setting depth) records)

end Agreement

/-- Another expander gives the same for some records wherever this one does not
go too deep. -/
theorem expandAll_extends
    {expander other : Expander}
    (extending : other.Extends expander)
    {records : List Record}
    {state : State}
    (enough : (expandAll expander records state).1 ≠ .error .tooDeep) :
    expandAll other records state = expandAll expander records state := by
  induction records generalizing state with
  | nil => rfl
  | cons record records inductionHypothesis =>
      rw [expandAll_cons] at enough
      rw [expandAll_cons, expandAll_cons]
      have first : other state "" record = expander state "" record := by
        apply extending
        intro tooDeep
        apply enough
        rcases expanded : expander state "" record with ⟨error | entries, next⟩
        · simpa [inSequence, expanded] using tooDeep
        · simp [expanded] at tooDeep
      rw [first]
      rcases expanded : expander state "" record with ⟨error | entries, next⟩
      · rfl
      · have rest : expandAll other records next =
            expandAll expander records next := by
          apply inductionHypothesis
          intro tooDeep
          apply enough
          rcases others : expandAll expander records next with
            ⟨error | more, last⟩
          · rw [others] at tooDeep
            simpa [inSequence, expanded, others] using tooDeep
          · simp [others] at tooDeep
        rw [inSequence, inSequence, rest]

end Expansion
end EnvTags
