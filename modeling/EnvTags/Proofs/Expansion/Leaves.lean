import EnvTags.Proofs.Expansion.Depth
import EnvTags.Proofs.Expansion.Tree

/-!
# The variables of an expansion are the leaves of its tree

An expansion that starts while no record is being expanded succeeds exactly when
its record has an expansion tree. The variables are then the leaves of the tree,
the diagnostics those on its branches, and the diagnostics about cycles are those
of the fields that are cut off.
-/

namespace EnvTags
namespace Expansion

/-! ## Lookups from any state -/

/-- What a lookup answers in a state it answers from the scanned directories
alone. -/
theorem exists_lookup_of_nestedRecord
    {setting : Setting}
    {state next : State}
    {record : Record}
    {field : Field}
    {answer : Except AnalysisError (Option Record)}
    (lookup : nestedRecord setting state record field = (answer, next)) :
    ∃ own, nestedRecord setting { cache := state.cache } record field =
        (answer, own) ∧ next = state.resume own := by
  rw [nestedRecord_eq_resume] at lookup
  obtain ⟨rfl, rfl⟩ := Prod.mk.inj lookup
  exact ⟨_, rfl, rfl⟩

/-- A lookup from the scanned directories alone is the same in every state. -/
theorem nestedRecord_eq_of_lookup
    {setting : Setting}
    {state own : State}
    {record : Record}
    {field : Field}
    {answer : Except AnalysisError (Option Record)}
    (lookup : nestedRecord setting { cache := state.cache } record field =
      (answer, own)) :
    nestedRecord setting state record field = (answer, state.resume own) := by
  rw [nestedRecord_eq_resume, lookup]

/-! ## From expansions to trees -/

/-- An expansion has ended with the branches of some fields: their leaves are its
variables and their diagnostics are added. -/
structure Harvest
    (namePrefix : String)
    (record : Record)
    (branches : List Branch)
    (state : State)
    (entries : List Variable)
    (last : State) : Prop where
  entries_eq : entries =
    (Branch.leavesAmong record branches).map (Leaf.entry namePrefix)
  diagnostics_eq : last.diagnostics =
    state.diagnostics ++ Branch.reportsAmong record branches
  active_eq : last.active = state.active

/-- What an expander answers for a record that is not being expanded is read off
the branches of its fields. -/
def Expander.Follows (setting : Setting) (expander : Expander) : Prop :=
  ∀ {state last : State} {namePrefix : String} {record : Record}
    {entries : List Variable},
    record.key ∉ state.active →
    expander state namePrefix record = (.ok entries, last) →
      ∃ branches, Grown setting (record.key :: state.active) record
          record.fields state.cache branches last.cache ∧
        Harvest namePrefix record branches state entries last

theorem entry_leaf
    (namePrefix : String)
    (record : Record)
    (field : Field)
    (descriptor : Tag.Descriptor) :
    Leaf.entry namePrefix ⟨[], record, field, descriptor⟩ =
      leaf namePrefix record descriptor := by
  simp [Leaf.entry, Leaf.containerPrefix, leaf]

/-- The leaves below a container field have its prefix in front. -/
theorem map_entry_below
    (namePrefix : String)
    (field : Field)
    (descriptor : Tag.Descriptor)
    (leaves : List Leaf) :
    (leaves.map (Leaf.below field descriptor)).map (Leaf.entry namePrefix) =
      leaves.map (Leaf.entry (namePrefix ++ descriptor.containerPrefix)) := by
  rw [List.map_map]
  apply List.map_congr_left
  intro leaf _
  exact Leaf.entry_below namePrefix field descriptor leaf

/-- A row of fields that succeeds has branches, and its variables are their
leaves. -/
theorem exists_grown_of_expandFields
    {setting : Setting}
    {expander : Expander}
    (follows : expander.Follows setting)
    {namePrefix : String}
    {record : Record}
    {fields : List Field}
    {state last : State}
    {entries : List Variable}
    (expanded : expandFields setting expander namePrefix record fields state =
      (.ok entries, last)) :
    ∃ branches,
      Grown setting state.active record fields state.cache branches last.cache ∧
        Harvest namePrefix record branches state entries last := by
  induction fields generalizing state entries with
  | nil =>
      simp only [expandFields, Prod.mk.injEq, Except.ok.injEq] at expanded
      obtain ⟨rfl, rfl⟩ := expanded
      exact ⟨[], .done, by simp, by simp, rfl⟩
  | cons field fields inductionHypothesis =>
      obtain ⟨first, middle, others, head, rest, rfl⟩ :=
        expandFields_cons_eq_ok_iff.mp expanded
      obtain ⟨branches, grown, harvest⟩ := inductionHypothesis rest
      have step := expandField_step setting expander namePrefix record field state
      rw [head] at step
      generalize result_eq : ((.ok first, middle) : Step (List Variable)) = result
        at step
      cases step with
      | untagged undescribed =>
          obtain ⟨⟨⟩, rfl⟩ := Prod.mk.inj result_eq
          refine ⟨_, .untagged undescribed grown, ?_, ?_, harvest.active_eq⟩
          · simp [harvest.entries_eq]
          · simp [harvest.diagnostics_eq, State.resume]
      | leaf descriptor isLeaf =>
          obtain ⟨⟨⟩, rfl⟩ := Prod.mk.inj result_eq
          refine ⟨_, .leaf isLeaf grown, ?_, ?_, harvest.active_eq⟩
          · simp [harvest.entries_eq, entry_leaf]
          · simp [harvest.diagnostics_eq]
      | failed descriptor isContainer error next lookup => simp at result_eq
      | missing descriptor isContainer next lookup =>
          obtain ⟨⟨⟩, rfl⟩ := Prod.mk.inj result_eq
          obtain ⟨own, found, rfl⟩ := exists_lookup_of_nestedRecord lookup
          refine ⟨_, .missing isContainer found grown, ?_, ?_, harvest.active_eq⟩
          · simp [harvest.entries_eq]
          · simp [harvest.diagnostics_eq, State.resume]
      | cycle descriptor isContainer target next lookup active =>
          obtain ⟨⟨⟩, rfl⟩ := Prod.mk.inj result_eq
          obtain ⟨own, found, rfl⟩ := exists_lookup_of_nestedRecord lookup
          have silent := nestedRecord_diagnostics_of_found found
          refine ⟨_, .cut isContainer found active grown, ?_, ?_,
            harvest.active_eq⟩
          · simp [harvest.entries_eq]
          · simp [harvest.diagnostics_eq, State.resume, silent]
      | nested descriptor isContainer target next lookup fresh =>
          obtain ⟨own, found, rfl⟩ := exists_lookup_of_nestedRecord lookup
          have silent := nestedRecord_diagnostics_of_found found
          obtain ⟨inner, nested, innerHarvest⟩ := follows fresh result_eq.symm
          have sameActive : middle.active = state.active := innerHarvest.active_eq
          rw [sameActive] at grown
          refine ⟨_, .child isContainer found fresh nested grown, ?_, ?_, ?_⟩
          · simp only [harvest.entries_eq, innerHarvest.entries_eq,
              Branch.leavesAmong, Branch.leaves, List.map_append,
              map_entry_below]
          · simp [harvest.diagnostics_eq, innerHarvest.diagnostics_eq,
              State.resume, silent]
          · rw [harvest.active_eq, sameActive]

/-- Within any depth, a successful expansion is read off a tree. -/
theorem expandWithin_follows
    (setting : Setting)
    (depth : Nat) :
    (expandWithin setting depth).Follows setting := by
  induction depth with
  | zero =>
      intro state last namePrefix record entries fresh expanded
      simp [expandWithin] at expanded
  | succ depth inductionHypothesis =>
      intro state last namePrefix record entries fresh expanded
      rcases fields : expandFields setting (expandWithin setting depth) namePrefix
        record record.fields (state.enter record.key) with ⟨result, final⟩
      simp only [expandWithin, fields, Prod.mk.injEq] at expanded
      obtain ⟨rfl, rfl⟩ := expanded
      obtain ⟨branches, grown, harvest⟩ :=
        exists_grown_of_expandFields inductionHypothesis fields
      have entered := State.enter_active_of_notMem state record.key fresh
      rw [entered] at grown
      refine ⟨branches, grown, harvest.entries_eq, harvest.diagnostics_eq, ?_⟩
      exact State.leave_active_of_cons (harvest.active_eq.trans entered) fresh

/-! ## From trees to expansions -/

theorem expandField_of_leafField
    {setting : Setting}
    {field : Field}
    {descriptor : Tag.Descriptor}
    (isLeaf : LeafField setting field descriptor)
    (expander : Expander)
    (namePrefix : String)
    (record : Record)
    (state : State) :
    expandField setting expander namePrefix record field state =
      (.ok [leaf namePrefix record descriptor], state) := by
  obtain ⟨described, isLeaf⟩ := isLeaf
  have condition : (field.typeRef.isBuiltin || !descriptor.isContainer) = true := by
    simpa using isLeaf
  simp [expandField, described, condition]

theorem expandField_of_containerField
    {setting : Setting}
    {field : Field}
    {descriptor : Tag.Descriptor}
    (isContainer : ContainerField setting field descriptor)
    (expander : Expander)
    (namePrefix : String)
    (record : Record)
    (state : State) :
    expandField setting expander namePrefix record field state =
      expandContainer setting expander namePrefix record field descriptor
        state := by
  obtain ⟨described, notBuiltin, container⟩ := isContainer
  simp [expandField, described, notBuiltin, container]

/-- Fields with branches succeed, and their variables are the leaves. -/
theorem Grown.exists_expandFields
    {setting : Setting}
    {path : List Key}
    {record : Record}
    {fields : List Field}
    {before after : Dependency.ScanCache}
    {branches : List Branch}
    (grown : Grown setting path record fields before branches after)
    (state : State)
    (samePath : state.active = path)
    (sameCache : state.cache = before)
    (namePrefix : String) :
    ∃ entries last,
      expandFields setting (expand setting) namePrefix record fields state =
        (.ok entries, last) ∧
      last.cache = after ∧
      Harvest namePrefix record branches state entries last := by
  induction grown generalizing state namePrefix with
  | done => exact ⟨[], state, rfl, sameCache, by simp, by simp, rfl⟩
  | @untagged _ record field fields _ _ _ undescribed _ inductionHypothesis =>
      obtain ⟨entries, last, rest, cache, harvest⟩ := inductionHypothesis
        (state.resume ⟨state.cache, untaggedReports record field, []⟩) samePath
        sameCache namePrefix
      refine ⟨entries, last, ?_, cache, ?_, ?_, harvest.active_eq⟩
      · refine expandFields_cons_eq_ok_iff.mpr ⟨[], _, entries, ?_, rest, rfl⟩
        cases builtin : field.typeRef.isBuiltin <;>
          simp [expandField, undescribed, builtin, untaggedReports, State.resume,
            State.report]
      · simp [harvest.entries_eq]
      · simp [harvest.diagnostics_eq, State.resume]
  | leaf isLeaf _ inductionHypothesis =>
      obtain ⟨entries, last, rest, cache, harvest⟩ :=
        inductionHypothesis state samePath sameCache namePrefix
      refine ⟨_, last, expandFields_cons_eq_ok_iff.mpr ⟨_, state, entries,
        expandField_of_leafField isLeaf _ _ _ _, rest, rfl⟩, cache, ?_, ?_,
        harvest.active_eq⟩
      · simp [harvest.entries_eq, entry_leaf]
      · simp [harvest.diagnostics_eq]
  | @missing _ _ _ _ _ _ _ _ next isContainer lookup _ inductionHypothesis =>
      subst sameCache
      obtain ⟨entries, last, rest, cache, harvest⟩ :=
        inductionHypothesis (state.resume next) samePath rfl namePrefix
      refine ⟨entries, last, ?_, cache, ?_, ?_, harvest.active_eq⟩
      · refine expandFields_cons_eq_ok_iff.mpr ⟨[], _, entries, ?_, rest, rfl⟩
        rw [expandField_of_containerField isContainer, expandContainer,
          nestedRecord_eq_of_lookup lookup]
      · simp [harvest.entries_eq]
      · simp [harvest.diagnostics_eq, State.resume]
  | @cut _ record field _ _ _ _ _ target next isContainer lookup onPath _
      inductionHypothesis =>
      subst sameCache
      have silent := nestedRecord_diagnostics_of_found lookup
      obtain ⟨entries, last, rest, cache, harvest⟩ := inductionHypothesis
        ((state.resume next).report record field .cycle) samePath rfl
        namePrefix
      refine ⟨entries, last, ?_, cache, ?_, ?_, harvest.active_eq⟩
      · refine expandFields_cons_eq_ok_iff.mpr ⟨[], _, entries, ?_, rest, rfl⟩
        have active : target.key ∈ (state.resume next).active := by
          rwa [← samePath] at onPath
        rw [expandField_of_containerField isContainer, expandContainer,
          nestedRecord_eq_of_lookup lookup]
        simp only [if_pos active]
      · simp [harvest.entries_eq]
      · simp [harvest.diagnostics_eq, State.resume, silent]
  | @child path record field _ _ _ _ _ inner descriptor target next isContainer
      lookup fresh _ _ nestedHypothesis restHypothesis =>
      subst sameCache samePath
      have silent := nestedRecord_diagnostics_of_found lookup
      have inactive : target.key ∉ (state.resume next).active := fresh
      have entered :=
        State.enter_active_of_notMem (state.resume next) target.key inactive
      obtain ⟨first, middle, nested, nestedCache, nestedHarvest⟩ :=
        nestedHypothesis ((state.resume next).enter target.key) entered rfl
          (namePrefix ++ descriptor.containerPrefix)
      have left : (middle.leave target.key).active = state.active :=
        State.leave_active_of_cons (nestedHarvest.active_eq.trans entered)
          inactive
      obtain ⟨entries, last, rest, cache, harvest⟩ :=
        restHypothesis (middle.leave target.key) left nestedCache namePrefix
      refine ⟨first ++ entries, last, ?_, cache, ?_, ?_, ?_⟩
      · refine expandFields_cons_eq_ok_iff.mpr ⟨first, _, entries, ?_, rest, rfl⟩
        rw [expandField_of_containerField isContainer, expandContainer,
          nestedRecord_eq_of_lookup lookup]
        simp only [if_neg inactive]
        rw [expand_eq, nested]
      · simp only [harvest.entries_eq, nestedHarvest.entries_eq,
          Branch.leavesAmong, Branch.leaves, List.map_append, map_entry_below]
      · simp [harvest.diagnostics_eq, nestedHarvest.diagnostics_eq,
          State.resume, silent]
      · rw [harvest.active_eq, left]

/-- An expansion from a state in which nothing is being expanded succeeds exactly
when its record has an expansion tree. There is then only one. The variables are
its leaves, depth first and in the order of the fields: each has the package of
the record that declares it, the prefixes of all container fields on its way in
front of its own name, and its own default value. The diagnostics are those on
the branches, with one about a cycle for each field that is cut off. -/
theorem expand_eq_ok_iff_isExpansion
    {setting : Setting}
    {state last : State}
    {namePrefix : String}
    {record : Record}
    {entries : List Variable}
    (idle : state.active = []) :
    expand setting state namePrefix record = (.ok entries, last) ↔
      ∃ tree : Tree, tree.record = record ∧
        tree.IsExpansion setting state.cache last.cache ∧
        (∀ (other : Tree) (after : Dependency.ScanCache), other.record = record →
          other.IsExpansion setting state.cache after → other = tree) ∧
        entries = tree.leaves.map (Leaf.entry namePrefix) ∧
        last.diagnostics = state.diagnostics ++ tree.reports ∧
        tree.reports.filter (fun report => report.omission = .cycle) =
          tree.cuts.map (fun cut => ⟨cut.1.key, cut.2.name, .cycle⟩) ∧
        last.active = [] := by
  have fresh : record.key ∉ state.active := by simp [idle]
  constructor
  · intro expanded
    obtain ⟨branches, grown, harvest⟩ :=
      expandWithin_follows setting _ fresh expanded
    rw [idle] at grown
    have isTree : Tree.IsExpansion setting state.cache ⟨record, branches⟩
      last.cache := grown
    refine ⟨⟨record, branches⟩, rfl, isTree, ?_, harvest.entries_eq,
      harvest.diagnostics_eq, grown.filter_reports,
      harvest.active_eq.trans idle⟩
    intro other after sameRecord isOther
    exact (isOther.unique isTree sameRecord).1
  · rintro ⟨tree, rfl, isTree, -, rfl, diagnostics, -, active⟩
    have entered :=
      State.enter_active_of_notMem state tree.record.key fresh
    rw [idle] at entered
    obtain ⟨entries, final, fields, cache, harvest⟩ :=
      isTree.exists_expandFields (state.enter tree.record.key) entered rfl
        namePrefix
    have left : (final.leave tree.record.key).active = [] :=
      State.leave_active_of_cons (harvest.active_eq.trans entered) (by simp)
    have sameState : final.leave tree.record.key = last := by
      obtain ⟨lastCache, lastDiagnostics, lastActive⟩ := last
      rw [State.mk.injEq]
      exact ⟨cache, harvest.diagnostics_eq.trans diagnostics.symm,
        left.trans active.symm⟩
    rw [expand_eq, fields, sameState, harvest.entries_eq]
    rfl

/-- A record that another one refers back to. -/
def mutualConfig : Record where
  file := ⟨"config.go", []⟩
  package := "app"
  name := "Config"
  fields := [
    ⟨"Port", "int", "env:\"PORT,default=80\""⟩,
    ⟨"First", "Store", "env:\",prefix=FIRST_\""⟩,
    ⟨"Second", "*Store", "env:\",prefix=SECOND_\""⟩]
  imports := []

/-- A record that refers back. -/
def mutualStore : Record where
  file := ⟨"store.go", []⟩
  package := "app"
  name := "Store"
  fields := [
    ⟨"Back", "*Config", "env:\",prefix=BACK_\""⟩,
    ⟨"Host", "string", "env:\"HOST\""⟩]
  imports := []

/-- A project of two records that refer to each other. -/
def mutualSetting : Setting where
  system := ⟨.directory [], []⟩
  graph := Graph.ofRecords [mutualConfig, mutualStore]
  scheme := {}
  resolver := ⟨⟨".", []⟩, "app", ⟨"vendor", []⟩, none⟩

/-- The record that is mentioned twice is expanded twice, and cut off below
itself both times. -/
theorem exists_isExpansion_mutualConfig :
    ∃ tree : Tree, tree.record = mutualConfig ∧
      tree.IsExpansion mutualSetting [] [] ∧
      tree.leaves.map (Leaf.entry "APP_") =
        [⟨"app", "APP_PORT", "80"⟩, ⟨"app", "APP_FIRST_HOST", ""⟩,
          ⟨"app", "APP_SECOND_HOST", ""⟩] ∧
      tree.cuts.map (fun cut => (cut.1.key, cut.2.name)) =
        [(⟨"app", "Store"⟩, "Back"), (⟨"app", "Store"⟩, "Back")] := by
  have expanded : expand mutualSetting {} "APP_" mutualConfig =
      (.ok [⟨"app", "APP_PORT", "80"⟩, ⟨"app", "APP_FIRST_HOST", ""⟩,
          ⟨"app", "APP_SECOND_HOST", ""⟩],
        ⟨[], [⟨⟨"app", "Store"⟩, "Back", .cycle⟩,
          ⟨⟨"app", "Store"⟩, "Back", .cycle⟩], []⟩) := by
    decide +kernel
  obtain ⟨tree, isRecord, isTree, -, entries, reports, cycles, -⟩ :=
    (expand_eq_ok_iff_isExpansion rfl).mp expanded
  refine ⟨tree, isRecord, isTree, entries.symm, ?_⟩
  rw [List.nil_append] at reports
  rw [← reports] at cycles
  have pairs := congrArg
    (List.map fun report => (report.record, report.field)) cycles
  simpa [Function.comp_def] using pairs.symm

end Expansion
end EnvTags
