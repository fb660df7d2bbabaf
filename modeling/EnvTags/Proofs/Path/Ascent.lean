import EnvTags.Proofs.Path

/-!
# The way up from a path

From a path one goes to its parent, to the parent of that, and so on. Each step drops
one component, and there are as many steps as there are components besides the root.
-/

namespace EnvTags
namespace Path

/-- The path that is reached after some steps to a parent. -/
def ascend? (path : Path) : Nat → Option Path
  | 0 => some path
  | steps + 1 => (path.ascend? steps).bind parent?

/-- The number of components besides the root. -/
def depth (path : Path) : Nat :=
  path.components.countP fun component => component ≠ .root

/-- The first step may be taken before all the others. -/
theorem ascend?_succ (path : Path) (steps : Nat) :
    path.ascend? (steps + 1) =
      path.parent?.bind fun parent => parent.ascend? steps := by
  induction steps with
  | zero => simp [ascend?]
  | succ steps inductionHypothesis =>
      rw [ascend?, inductionHypothesis, Option.bind_assoc]
      rfl

/-- One path is reached from another one by dropping its last components, of which the
root is none. -/
structure IsAbove (steps : Nat) (path directory : Path) : Prop where
  /-- The components that are dropped. -/
  components : ∃ dropped, path.components = directory.components ++ dropped ∧
    dropped.length = steps ∧ .root ∉ dropped
  /-- What is reached is written at the start of the path. -/
  text_prefix : directory.text.toList <+: path.text.toList
  /-- It is written without pieces that have no effect at its end, except for the
  root. -/
  ends : steps ≠ 0 → directory ≠ ⟨"", [""]⟩ →
    ∀ piece ∈ directory.tail.getLast?, isSilent piece = false

theorem isAbove_of_ascend?
    {path directory : Path}
    {steps : Nat}
    (reached : path.ascend? steps = some directory) :
    IsAbove steps path directory := by
  induction steps generalizing directory with
  | zero =>
      obtain rfl := Option.some.inj reached
      exact ⟨⟨[], by simp⟩, List.prefix_rfl, fun step => absurd rfl step⟩
  | succ steps inductionHypothesis =>
      obtain ⟨child, childReached, found⟩ := Option.bind_eq_some_iff.mp reached
      obtain ⟨⟨dropped, split, count, noRoot⟩, textPrefix, -⟩ :=
        inductionHypothesis childReached
      have isParent := isParent_of_parent? found
      obtain ⟨last, notRoot, lastSplit⟩ := isParent.components_eq
      refine ⟨⟨last :: dropped, ?_, ?_, ?_⟩, ?_, fun _ => isParent.isSilent_last⟩
      · rw [split, lastSplit, List.append_assoc]
        rfl
      · rw [List.length_cons, count]
      · exact List.not_mem_cons_of_ne_of_not_mem (Ne.symm notRoot) noRoot
      · exact isParent.text_prefix.trans textPrefix

theorem IsAbove.depth_eq
    {path directory : Path}
    {steps : Nat}
    (above : IsAbove steps path directory) :
    path.depth = directory.depth + steps := by
  obtain ⟨dropped, split, count, noRoot⟩ := above.components
  have allCount : dropped.countP (fun component => component ≠ .root) =
      dropped.length := by
    rw [List.countP_eq_length]
    intro component inside
    exact decide_eq_true fun isRoot => noRoot (isRoot ▸ inside)
  rw [depth, split, List.countP_append, allCount, count, depth]

theorem isSome_parent?_iff {path : Path} :
    path.parent?.isSome = true ↔ 0 < path.depth := by
  rw [Option.isSome_iff_ne_none, ne_eq, parent?_eq_none_iff]
  simp [depth, List.countP_pos_iff]

/-- The way up ends after as many steps as there are components besides the root. -/
theorem isSome_ascend?_iff {path : Path} {steps : Nat} :
    (path.ascend? steps).isSome = true ↔ steps ≤ path.depth := by
  induction steps with
  | zero => simp [ascend?]
  | succ steps inductionHypothesis =>
      cases reached : path.ascend? steps with
      | none =>
          have tooFar : ¬steps ≤ path.depth := by
            rw [← inductionHypothesis, reached]
            exact Bool.false_ne_true
          have noStep : path.ascend? (steps + 1) = none := by
            rw [ascend?, reached, Option.bind_none]
          rw [noStep, Option.isSome_none]
          constructor
          · exact fun reaches => absurd reaches Bool.false_ne_true
          · omega
      | some directory =>
          have deeper := (isAbove_of_ascend? reached).depth_eq
          simp only [ascend?, reached, Option.bind_some, isSome_parent?_iff]
          omega

end Path
end EnvTags
