import EnvTags.Proofs.Expansion.Agreement
import EnvTags.Proofs.Expansion.Invariant

/-!
# Expansions confined by an invariant

Two settings may differ in files that no expansion comes to. If every lookup for a
record that satisfies an invariant gives the same in both settings, then so does
every expansion of such records, with the same scanned directories and
diagnostics.
-/

namespace EnvTags
namespace Expansion

/-- Two steps one after the other give the same as others if the first ones do,
and the second ones from where the first ends. -/
theorem inSequence_congr
    {first : Step (List Variable)}
    {rest otherRest : State → Step (List Variable)}
    (sameRest : ∀ entries next, first = (.ok entries, next) →
      otherRest next = rest next) :
    inSequence first otherRest = inSequence first rest := by
  rcases first with ⟨error | entries, next⟩
  · rfl
  · simp only [inSequence, sameRest entries next rfl]

namespace Invariant

variable {setting : Setting}

/-- Every lookup for a record under the invariant gives the same in another
setting. -/
structure Confines (invariant : Invariant setting) (other : Setting) : Prop where
  scheme_eq : other.scheme = setting.scheme
  lookup : ∀ (state : State) (record : Record) (field : Field),
    invariant.OfCache state.cache → invariant.ofRecord record →
      nestedRecord other state record field =
        nestedRecord setting state record field

/-- Lookups are confined if packages are located alike and directories that the
invariant allows are scanned alike. -/
theorem confines_of_scans
    (invariant : Invariant setting)
    {system : FileSystem}
    (locates : ∀ importPath, setting.resolver.locate system importPath =
      setting.resolver.locate setting.system importPath)
    (scans : ∀ cache directory package, invariant.ofScan directory package →
      Dependency.scanPackage system cache directory package =
        Dependency.scanPackage setting.system cache directory package) :
    invariant.Confines { setting with system := system } := by
  refine ⟨rfl, ?_⟩
  intro state record field _ expandable
  unfold nestedRecord
  cases field.typeRef with
  | builtin type => rfl
  | composite text => rfl
  | unqualified name =>
      simp only [sibling,
        scans state.cache _ _ (invariant.own_ofScan record expandable)]
  | qualified package name =>
      have resolves : setting.resolver.resolve system setting.graph state.cache
            package name record.imports =
          setting.resolver.resolve setting.system setting.graph state.cache
            package name record.imports := by
        unfold Dependency.Resolver.resolve
        cases bound : Import.bound? package record.imports with
        | none => rfl
        | some imported =>
            simp only [Dependency.Resolver.resolveIn, locates]
            rcases located : setting.resolver.locate setting.system
              imported.path with error | _ | directory
            · rfl
            · rfl
            · have allowed := invariant.imported_ofScan record imported directory
                expandable (Import.mem_of_bound? bound) located
              simp only [scans state.cache _ _ allowed]
      simp only [imported, resolves]

variable
  {invariant : Invariant setting}
  {other : Setting}
  (confines : invariant.Confines other)
include confines

section Fields

variable
  {expander otherExpander : Expander}
  (same : ∀ (state : State) (namePrefix : String) (record : Record),
    invariant.OfCache state.cache → invariant.ofRecord record →
      otherExpander state namePrefix record = expander state namePrefix record)
  {record : Record}
  (expandable : invariant.ofRecord record)
include same expandable

/-- A field gives the same if nested records do. -/
theorem Confines.expandField_eq
    (namePrefix : String)
    (field : Field)
    {state : State}
    (known : invariant.OfCache state.cache) :
    expandField other otherExpander namePrefix record field state =
      expandField setting expander namePrefix record field state := by
  unfold expandField
  rw [confines.scheme_eq]
  cases setting.scheme.describe field.tag with
  | none => rfl
  | some descriptor =>
      simp only
      split
      · rfl
      · unfold expandContainer
        rw [confines.lookup state record field known expandable]
        rcases lookup : nestedRecord setting state record field with
          ⟨error | _ | target, next⟩
        · rfl
        · rfl
        · obtain ⟨knownNext, found⟩ :=
            invariant.of_nestedRecord known expandable lookup
          simp only [same next _ target knownNext (found target rfl)]

theorem Confines.expandFields_eq
    (kept : invariant.KeptBy expander)
    (namePrefix : String)
    (fields : List Field)
    {state : State}
    (known : invariant.OfCache state.cache) :
    expandFields other otherExpander namePrefix record fields state =
      expandFields setting expander namePrefix record fields state := by
  induction fields generalizing state with
  | nil => rfl
  | cons field fields inductionHypothesis =>
      rw [expandFields_cons, expandFields_cons,
        confines.expandField_eq same expandable namePrefix field known]
      refine inSequence_congr ?_
      intro entries next first
      have knownNext := ofCache_expandField kept expandable namePrefix field known
      rw [first] at knownNext
      exact inductionHypothesis knownNext

end Fields

/-- Within any depth an expansion gives the same. -/
theorem Confines.expandWithin_eq
    (depth : Nat)
    (state : State)
    (namePrefix : String)
    (record : Record)
    (known : invariant.OfCache state.cache)
    (expandable : invariant.ofRecord record) :
    expandWithin other depth state namePrefix record =
      expandWithin setting depth state namePrefix record := by
  induction depth generalizing state namePrefix record with
  | zero => rfl
  | succ depth inductionHypothesis =>
      have entered : invariant.OfCache (state.enter record.key).cache := known
      rw [expandWithin, expandWithin,
        confines.expandFields_eq inductionHypothesis expandable
          (invariant.keptBy_expandWithin depth) namePrefix record.fields entered]

/-- The expansions of some records, one after the other, give the same. -/
theorem Confines.expandAll_eq
    (depth : Nat)
    {records : List Record}
    (expandable : ∀ record ∈ records, invariant.ofRecord record)
    {state : State}
    (known : invariant.OfCache state.cache) :
    expandAll (expandWithin other depth) records state =
      expandAll (expandWithin setting depth) records state := by
  induction records generalizing state with
  | nil => rw [expandAll, expandAll]
  | cons record records inductionHypothesis =>
      obtain ⟨expandableFirst, expandableRest⟩ :=
        List.forall_mem_cons.mp expandable
      rw [expandAll_cons, expandAll_cons,
        confines.expandWithin_eq depth state "" record known expandableFirst]
      refine inSequence_congr ?_
      intro entries next first
      have knownNext := invariant.keptBy_expandWithin depth state "" record known
        expandableFirst
      rw [first] at knownNext
      exact inductionHypothesis expandableRest knownNext

end Invariant
end Expansion
end EnvTags
