import EnvTags.Proofs.Expansion.Agreement

/-!
# One expansion after the other

Nothing reads the diagnostics during an expansion: new ones are put behind those
from before. The key of a record is taken back on every way out of it, also on
the way of an error from a record nested in it. So nothing is being expanded
between two expansions, and each of them goes as it does in a state in which
nothing but the scanned directories is known.
-/

namespace EnvTags
namespace Expansion

/-! ## Diagnostics from before -/

/-- The same state, with some diagnostics from before in front of its own. -/
def State.following (earlier : List Diagnostic) (state : State) : State :=
  { state with diagnostics := earlier ++ state.diagnostics }

/-- The same step, with some diagnostics from before in front of its own. -/
def following (earlier : List Diagnostic) {α : Type} (step : Step α) : Step α :=
  (step.1, step.2.following earlier)

theorem nestedRecord_following
    (setting : Setting)
    (earlier : List Diagnostic)
    (state : State)
    (record : Record)
    (field : Field) :
    nestedRecord setting (state.following earlier) record field =
      following earlier (nestedRecord setting state record field) := by
  rw [nestedRecord_eq_resume, nestedRecord_eq_resume setting state]
  simp [following, State.following, State.resume]

theorem inSequence_following
    {earlier : List Diagnostic}
    {rest : State → Step (List Variable)}
    (follows : ∀ next : State,
      rest (next.following earlier) = following earlier (rest next))
    (first : Step (List Variable)) :
    inSequence (following earlier first) rest =
      following earlier (inSequence first rest) := by
  rcases first with ⟨error | entries, next⟩
  · rfl
  · simp only [following, inSequence, follows]
    rcases rest next with ⟨error | others, last⟩ <;> rfl

/-- An expander does not read the diagnostics from before. -/
def Expander.IgnoresReports (expander : Expander) : Prop :=
  ∀ (earlier : List Diagnostic) (state : State) (namePrefix : String)
      (record : Record),
    expander (state.following earlier) namePrefix record =
      following earlier (expander state namePrefix record)

section Fields

variable
  {expander : Expander}
  (ignores : expander.IgnoresReports)
  (setting : Setting)
  (earlier : List Diagnostic)
  (namePrefix : String)
  (record : Record)
include ignores

theorem expandField_following (field : Field) (state : State) :
    expandField setting expander namePrefix record field
        (state.following earlier) =
      following earlier
        (expandField setting expander namePrefix record field state) := by
  unfold expandField
  cases setting.scheme.describe field.tag with
  | none =>
      simp only
      split
      · simp [following, State.following, State.report]
      · rfl
  | some descriptor =>
      simp only
      split
      · rfl
      · unfold expandContainer
        rw [nestedRecord_following]
        rcases nestedRecord setting state record field with
          ⟨error | _ | target, next⟩
        · rfl
        · rfl
        · have sameActive : (next.following earlier).active = next.active := rfl
          simp only [following, sameActive]
          split
          · simp [State.following, State.report]
          · exact ignores earlier next _ target

theorem expandFields_following (fields : List Field) (state : State) :
    expandFields setting expander namePrefix record fields
        (state.following earlier) =
      following earlier
        (expandFields setting expander namePrefix record fields state) := by
  induction fields generalizing state with
  | nil => rfl
  | cons field fields inductionHypothesis =>
      rw [expandFields_cons, expandFields_cons,
        expandField_following ignores setting earlier namePrefix record field
          state]
      exact inSequence_following inductionHypothesis _

end Fields

/-- Within any depth the diagnostics from before are not read. -/
theorem expandWithin_ignoresReports (setting : Setting) (depth : Nat) :
    (expandWithin setting depth).IgnoresReports := by
  induction depth with
  | zero =>
      intro earlier state namePrefix record
      rfl
  | succ depth inductionHypothesis =>
      intro earlier state namePrefix record
      have fields := expandFields_following inductionHypothesis setting earlier
        namePrefix record record.fields (state.enter record.key)
      have entered : (state.following earlier).enter record.key =
          (state.enter record.key).following earlier := rfl
      rw [expandWithin, expandWithin, entered, fields]
      rfl

/-! ## Turns -/

/-- What one expansion is asked for, and the files as they are then. -/
structure Turn where
  /-- The files. -/
  system : FileSystem
  /-- What is put before the names of the variables. -/
  namePrefix : String
  /-- The record to expand. -/
  record : Record

/-- The expansion that is asked for. Of the setting, the files alone can have
changed. -/
def Turn.step (setting : Setting) (turn : Turn) (state : State) :
    Step (List Variable) :=
  expand { setting with system := turn.system } state turn.namePrefix turn.record

/-- The state after some turns, each of which may have failed. -/
def stateAfter (setting : Setting) (turns : List Turn) (state : State) : State :=
  turns.foldl (fun state turn => (turn.step setting state).2) state

/-- A turn from a state in which nothing is being expanded leaves nothing that is
being expanded. -/
theorem Turn.step_active
    (setting : Setting)
    (turn : Turn)
    {state : State}
    (idle : state.active = []) :
    (turn.step setting state).2.active = [] := by
  have kept := expandWithin_keepsActive { setting with system := turn.system }
    (keyCount { setting with system := turn.system } state [turn.record]) state
    turn.namePrefix turn.record (by simp [idle])
  exact kept.trans idle

/-- After any turns nothing is being expanded. -/
theorem stateAfter_active
    (setting : Setting)
    (turns : List Turn)
    {state : State}
    (idle : state.active = []) :
    (stateAfter setting turns state).active = [] := by
  induction turns generalizing state with
  | nil => exact idle
  | cons turn turns inductionHypothesis =>
      exact inductionHypothesis (turn.step_active setting idle)

/-- A turn from a state in which nothing is being expanded goes as if only the
scanned directories were known. -/
theorem Turn.step_eq_following
    (setting : Setting)
    (turn : Turn)
    {state : State}
    (idle : state.active = []) :
    turn.step setting state =
      following state.diagnostics (turn.step setting { cache := state.cache }) := by
  have sameState :
      state = State.following state.diagnostics { cache := state.cache } := by
    obtain ⟨cache, diagnostics, active⟩ := state
    obtain rfl : active = [] := idle
    simp [State.following]
  have ignored := expandWithin_ignoresReports
    { setting with system := turn.system }
    (keyCount { setting with system := turn.system } state [turn.record])
    state.diagnostics { cache := state.cache } turn.namePrefix turn.record
  rw [← sameState] at ignored
  exact ignored

/-- Records that are expanded one after the other take turns, up to the first one
that fails. -/
theorem exists_stateAfter_eq_expandAll
    (setting : Setting)
    (records : List Record)
    (state : State) :
    ∃ taken, taken <+: records ∧
      (expandAll (expand setting) records state).2 =
        stateAfter setting
          (taken.map fun record => ⟨setting.system, "", record⟩) state := by
  induction records generalizing state with
  | nil => exact ⟨[], List.prefix_rfl, rfl⟩
  | cons record records inductionHypothesis =>
      rw [expandAll_cons]
      rcases first : expand setting state "" record with ⟨error | entries, next⟩
      · refine ⟨[record], by simp, ?_⟩
        simp [inSequence, stateAfter, Turn.step, first]
      · obtain ⟨taken, isPrefix, sameState⟩ := inductionHypothesis next
        refine ⟨record :: taken, by simpa using isPrefix, ?_⟩
        have rest : (inSequence (.ok entries, next)
            (expandAll (expand setting) records)).2 =
              (expandAll (expand setting) records next).2 := by
          rw [inSequence]
          rcases expandAll (expand setting) records next with
            ⟨error | others, last⟩ <;> rfl
        simpa [stateAfter, Turn.step, first, rest] using sameState

/-- After any turns, whether they succeed or fail in a record at any depth,
nothing is being expanded. So each turn gives the variables or the error, scans
the directories and adds the diagnostics that it does in a state in which only
the directories scanned so far are known. The roots of an analysis take such
turns, up to the first one that fails. -/
theorem turn_step_eq_fresh
    (setting : Setting)
    (cache : Dependency.ScanCache)
    (earlier : List Turn)
    (turn : Turn)
    (roots : List Record) :
    let state := stateAfter setting earlier { cache := cache }
    let fresh := turn.step setting { cache := state.cache }
    state.active = [] ∧
      turn.step setting state =
        (fresh.1,
          ⟨fresh.2.cache, state.diagnostics ++ fresh.2.diagnostics, []⟩) ∧
      ∃ taken, taken <+: roots ∧
        (expandAll (expand setting) roots { cache := cache }).2 =
          stateAfter setting
            (taken.map fun root => ⟨setting.system, "", root⟩)
            { cache := cache } := by
  intro state fresh
  have idle : state.active = [] := stateAfter_active setting earlier rfl
  refine ⟨idle, ?_, exists_stateAfter_eq_expandAll setting roots _⟩
  have freshIdle : fresh.2.active = [] := turn.step_active setting rfl
  calc turn.step setting state
    _ = following state.diagnostics fresh := turn.step_eq_following setting idle
    _ = (fresh.1, ⟨fresh.2.cache, state.diagnostics ++ fresh.2.diagnostics,
          fresh.2.active⟩) := rfl
    _ = (fresh.1, ⟨fresh.2.cache, state.diagnostics ++ fresh.2.diagnostics,
          []⟩) := by rw [freshIdle]

end Expansion
end EnvTags
