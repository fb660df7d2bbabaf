import EnvTags.Proofs.Expansion.Agreement

/-!
# Prefixes of names

The prefix with which a record is expanded reaches the names of its variables and
nothing else: no lookup, no diagnostic and no error depends on it. Prefixes are
put together with the outermost one first. So what stands before the prefix of an
expansion stands before the name of every variable in it.
-/

namespace EnvTags

/-- The same variable, with a text before its name. -/
def Variable.prefixed (text : String) (entry : Variable) : Variable :=
  { entry with name := text ++ entry.name }

namespace Expansion

/-- The same step, with a text before the names of its variables. -/
def prefixed (text : String) (step : Step (List Variable)) :
    Step (List Variable) :=
  (step.1.map (List.map (Variable.prefixed text)), step.2)

theorem leaf_append
    (outer inner : String)
    (record : Record)
    (descriptor : Tag.Descriptor) :
    leaf (outer ++ inner) record descriptor =
      (leaf inner record descriptor).prefixed outer := by
  simp [leaf, Variable.prefixed, String.append_assoc]

/-- Steps with a text before all names give together what they give without it,
with the text before all names. -/
theorem inSequence_prefixed
    {text : String}
    {rest other : State → Step (List Variable)}
    (composes : ∀ next, other next = prefixed text (rest next))
    (first : Step (List Variable)) :
    inSequence (prefixed text first) other =
      prefixed text (inSequence first rest) := by
  rcases first with ⟨error | entries, next⟩
  · rfl
  · simp only [prefixed, Except.map, inSequence, composes]
    rcases rest next with ⟨error | others, last⟩
    · rfl
    · simp

/-- What stands before the prefix of an expansion stands before the names of all
its variables. -/
def Expander.ComposesPrefixes (expander : Expander) : Prop :=
  ∀ (state : State) (outer inner : String) (record : Record),
    expander state (outer ++ inner) record =
      prefixed outer (expander state inner record)

section Fields

variable
  {expander : Expander}
  (composes : expander.ComposesPrefixes)
  (setting : Setting)
  (outer inner : String)
  (record : Record)
include composes

theorem expandField_append (field : Field) (state : State) :
    expandField setting expander (outer ++ inner) record field state =
      prefixed outer
        (expandField setting expander inner record field state) := by
  unfold expandField
  cases setting.scheme.describe field.tag with
  | none =>
      simp only
      split <;> rfl
  | some descriptor =>
      simp only
      split
      · rw [leaf_append]
        rfl
      · -- The lookup does not see the prefix, and the container adds its own
        -- prefix behind it.
        unfold expandContainer
        rcases nestedRecord setting state record field with
          ⟨error | _ | target, next⟩
        · rfl
        · rfl
        · simp only
          split
          · rfl
          · rw [String.append_assoc]
            exact composes next outer _ target

theorem expandFields_append (fields : List Field) (state : State) :
    expandFields setting expander (outer ++ inner) record fields state =
      prefixed outer
        (expandFields setting expander inner record fields state) := by
  induction fields generalizing state with
  | nil => rfl
  | cons field fields inductionHypothesis =>
      rw [expandFields_cons, expandFields_cons,
        expandField_append composes setting outer inner record field state]
      exact inSequence_prefixed inductionHypothesis _

end Fields

/-- Within any depth the prefix of an expansion is composed in this way. -/
theorem expandWithin_composesPrefixes (setting : Setting) (depth : Nat) :
    (expandWithin setting depth).ComposesPrefixes := by
  induction depth with
  | zero =>
      intro state outer inner record
      rfl
  | succ depth inductionHypothesis =>
      intro state outer inner record
      rw [expandWithin, expandWithin,
        expandFields_append inductionHypothesis setting outer inner record
          record.fields (state.enter record.key)]
      rfl

/-- The prefix of an expansion decides over nothing but names: with a text before
it the expansion ends in the same state, with the same directories scanned and
the same diagnostics, and fails with the same error or gives the same variables
with the text before their names. -/
theorem expand_prefix_append
    (setting : Setting)
    (state : State)
    (outer inner : String)
    (record : Record) :
    (expand setting state (outer ++ inner) record).2 =
        (expand setting state inner record).2 ∧
      (expand setting state (outer ++ inner) record).1 =
        (expand setting state inner record).1.map fun entries =>
          entries.map fun entry =>
            ⟨entry.package, outer ++ entry.name, entry.value⟩ := by
  have composed := expandWithin_composesPrefixes setting
    (keyCount setting state [record]) state outer inner record
  unfold expand
  rw [composed]
  exact ⟨rfl, rfl⟩

end Expansion
end EnvTags
