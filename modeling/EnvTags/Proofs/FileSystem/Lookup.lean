import EnvTags.FileSystem.Access
import EnvTags.Proofs.Path

/-!
# What is found in a file system

Whatever passes from each directory to its entries, and holds of the root, holds
of every entry that a path leads to. The entry at the path of a named entry has
that name.
-/

namespace EnvTags
namespace FileSystem

/-- What every piece of a path preserves is preserved by all of them. -/
theorem follow_preserves
    {root : Entry}
    {keeps : Trail → Prop}
    (kept : ∀ {trail next : Trail} {piece : Name},
      keeps trail → enter root trail piece = .ok next → keeps next)
    {trail last : Trail}
    (start : keeps trail)
    {pieces : List Name}
    (followed : follow root trail pieces = .ok last) :
    keeps last := by
  induction pieces generalizing trail with
  | nil => exact Except.ok.inj followed ▸ start
  | cons piece pieces inductionHypothesis =>
      simp only [follow] at followed
      cases entered : enter root trail piece with
      | error failure => simp [entered] at followed
      | ok next =>
          simp only [entered] at followed
          exact inductionHypothesis (kept start entered) followed

/-- What is said of a named entry passes from a directory to its entries. -/
def Hereditary (holds : Name → Entry → Prop) : Prop :=
  ∀ name entries, holds name (.directory entries) →
    ∀ child ∈ entries, holds child.1 child.2

/-- The entries on a trail have a property. -/
def OnTrail (holds : Name → Entry → Prop) (trail : Trail) : Prop :=
  ∀ step ∈ trail, holds step.1 step.2

section Hereditary

variable {holds : Name → Entry → Prop} (hereditary : Hereditary holds)
include hereditary

/-- What holds on a trail holds after one more piece. -/
theorem onTrail_enter
    {root : Entry}
    (atRoot : holds "" root)
    {trail next : Trail}
    (onTrail : OnTrail holds trail)
    {piece : Name}
    (entered : enter root trail piece = .ok next) :
    OnTrail holds next := by
  have atEnd : ∃ name, holds name (entryAt root trail) := by
    cases trail with
    | nil => exact ⟨"", atRoot⟩
    | cons step steps => exact ⟨step.1, onTrail step List.mem_cons_self⟩
  unfold enter at entered
  cases atEntry : entryAt root trail with
  | file content => simp [atEntry] at entered
  | directory entries =>
      obtain ⟨name, holdsDirectory⟩ := atEnd
      rw [atEntry] at holdsDirectory
      simp only [atEntry] at entered
      split at entered
      · exact Except.ok.inj entered ▸ onTrail
      · split at entered
        · obtain rfl := Except.ok.inj entered
          intro step inside
          exact onTrail step (List.mem_of_mem_tail inside)
        · cases found : entries.lookup piece with
          | none => simp [found] at entered
          | some entry =>
              simp only [found, Except.ok.injEq] at entered
              obtain ⟨earlier, later, rfl, -⟩ :=
                List.lookup_eq_some_iff.mp found
              have child := hereditary name _ holdsDirectory (piece, entry)
                (by simp)
              subst entered
              intro step inside
              rcases List.mem_cons.mp inside with rfl | before
              · exact child
              · exact onTrail step before

/-- What holds on a trail holds after more pieces. -/
theorem onTrail_follow
    {root : Entry}
    (atRoot : holds "" root)
    {trail next : Trail}
    (onTrail : OnTrail holds trail)
    {pieces : List Name}
    (followed : follow root trail pieces = .ok next) :
    OnTrail holds next :=
  follow_preserves (fun before entered =>
    onTrail_enter hereditary atRoot before entered) onTrail followed

/-- What holds of the root holds on the way to every path. -/
theorem onTrail_locate
    {system : FileSystem}
    (atRoot : holds "" system.root)
    {path : Path}
    {trail : Trail}
    (located : system.locate path = .ok trail) :
    OnTrail holds trail := by
  have start : OnTrail holds [] := by simp [OnTrail]
  unfold locate at located
  split at located
  · simp at located
  · split at located
    · exact onTrail_follow hereditary atRoot start located
    · unfold followRelative at located
      cases working : follow system.root [] system.workingDirectory with
      | error failure => simp [working] at located
      | ok middle =>
          simp only [working] at located
          exact onTrail_follow hereditary atRoot
            (onTrail_follow hereditary atRoot start working) located

/-- What holds of the root holds of the entry at every path. -/
theorem holds_of_entry
    {system : FileSystem}
    (atRoot : holds "" system.root)
    {path : Path}
    {entry : Entry}
    (found : system.entry path = .ok entry) :
    ∃ name, holds name entry := by
  unfold FileSystem.entry at found
  cases located : system.locate path with
  | error failure => simp [located] at found
  | ok trail =>
      simp only [located, Except.ok.injEq] at found
      subst found
      cases trail with
      | nil => exact ⟨"", atRoot⟩
      | cons step steps =>
          exact ⟨step.1,
            onTrail_locate hereditary atRoot located step List.mem_cons_self⟩

end Hereditary

/-! ## The entry with a name -/

/-- Pieces are followed one part after the other. -/
theorem follow_append
    (root : Entry)
    (trail : Trail)
    (left right : List Name) :
    follow root trail (left ++ right) =
      match follow root trail left with
      | .error failure => .error failure
      | .ok middle => follow root middle right := by
  induction left generalizing trail with
  | nil => rfl
  | cons piece pieces inductionHypothesis =>
      simp only [List.cons_append, follow]
      cases enter root trail piece with
      | error failure => rfl
      | ok next => exact inductionHypothesis next

/-- The way over pieces that end with the name of an entry ends there. -/
theorem follow_concat_eq_ok
    {root : Entry}
    {trail last : Trail}
    {pieces : List Name}
    {name : Name}
    (steps : Path.StepsToEntry name)
    (followed : follow root trail (pieces ++ [name]) = .ok last) :
    ∃ entry before, last = (name, entry) :: before := by
  rw [follow_append] at followed
  cases middle : follow root trail pieces with
  | error failure => simp [middle] at followed
  | ok before =>
      simp only [middle, follow] at followed
      cases entered : enter root before name with
      | error failure => simp [entered] at followed
      | ok next =>
          simp only [entered, Except.ok.injEq] at followed
          subst followed
          unfold enter at entered
          cases atEnd : entryAt root before with
          | file content => simp [atEnd] at entered
          | directory entries =>
              cases found : entries.lookup name with
              | none => simp [atEnd, steps.1, steps.2, found] at entered
              | some entry =>
                  simp only [atEnd, steps.1, steps.2, found, if_false,
                    Bool.false_eq_true, Except.ok.injEq] at entered
                  exact ⟨entry, before, entered.symm⟩

/-- The way to the path of a named entry ends with that name. -/
theorem locate_child_eq_ok
    {system : FileSystem}
    {directory : Path}
    {name : Name}
    (steps : Path.StepsToEntry name)
    {trail : Trail}
    (located : system.locate (directory.child name) = .ok trail) :
    ∃ entry before, trail = (name, entry) :: before := by
  have ends : ∃ before, (directory.child name).pieces = before ++ [name] ∧
      ((directory.child name).isAbsolute = true →
        (directory.child name).tail = before.tail ++ [name]) := by
    by_cases isEmpty : directory = Path.empty
    · subst isEmpty
      rw [Path.child_empty]
      exact ⟨[], by simp [Path.pieces, Path.isAbsolute]⟩
    · obtain ⟨tail, child, -⟩ := Path.child_eq_of_ne_empty isEmpty name
      rw [child]
      exact ⟨directory.head :: tail, by simp [Path.pieces]⟩
  obtain ⟨before, pieces, tail⟩ := ends
  unfold locate at located
  split at located
  · simp at located
  · split at located
    · rename_i absolute
      rw [tail absolute] at located
      exact follow_concat_eq_ok steps located
    · rw [pieces] at located
      unfold followRelative at located
      cases working : follow system.root [] system.workingDirectory with
      | error failure => simp [working] at located
      | ok middle =>
          simp only [working] at located
          exact follow_concat_eq_ok steps located

/-- Before the last piece there is a directory, which a slash does not leave. -/
theorem exists_directory_of_follow_concat
    {root : Entry}
    {trail last : Trail}
    {pieces : List Name}
    {piece : Name}
    (followed : follow root trail (pieces ++ [piece]) = .ok last) :
    ∃ middle entries, entryAt root middle = .directory entries ∧
      follow root trail pieces = .ok middle ∧
      follow root trail (pieces ++ [.text ""]) = .ok middle := by
  rw [follow_append] at followed
  cases before : follow root trail pieces with
  | error failure => simp [before] at followed
  | ok middle =>
      cases atEnd : entryAt root middle with
      | file content => simp [before, follow, enter, atEnd] at followed
      | directory entries =>
          refine ⟨middle, entries, atEnd, rfl, ?_⟩
          rw [follow_append, before]
          simp [follow, enter, atEnd, Path.isSilent]

/-- Only a directory has entries. -/
theorem exists_directory_of_entry_child
    {system : FileSystem}
    {base : Path}
    (nonempty : base ≠ Path.empty)
    {name : Name}
    {entry : Entry}
    (found : system.entry (base.child name) = .ok entry) :
    ∃ entries, system.entry base = .ok (.directory entries) := by
  obtain ⟨tail, child, split⟩ := Path.child_eq_of_ne_empty nonempty name
  -- Both paths are followed from the same place, over the same pieces.
  have located : ∃ trail, system.locate base = .ok trail ∧
      ∃ entries, entryAt system.root trail = .directory entries := by
    unfold FileSystem.entry at found
    rw [child] at found
    obtain ⟨head, pieces⟩ := base
    by_cases absolute : head = ""
    · subst absolute
      have tailNonempty : pieces ≠ [] := by
        rintro rfl
        exact nonempty rfl
      cases followed : follow system.root [] (tail ++ [name]) with
      | error failure =>
          simp [locate, Path.empty, Path.isAbsolute, followed] at found
      | ok last =>
          obtain ⟨middle, entries, atEnd, short, slashed⟩ :=
            exists_directory_of_follow_concat followed
          refine ⟨middle, ?_, entries, atEnd⟩
          rcases split with rfl | rfl <;>
            simpa [locate, Path.empty, Path.isAbsolute, tailNonempty]
    · cases working : follow system.root [] system.workingDirectory with
      | error failure =>
          simp [locate, Path.empty, Path.isAbsolute, absolute, followRelative,
            working] at found
      | ok start =>
          cases followed : follow system.root start
              ((head :: tail) ++ [name]) with
          | error failure =>
              rw [List.cons_append] at followed
              simp [locate, Path.empty, Path.isAbsolute, absolute,
                followRelative, working, Path.pieces, followed] at found
          | ok last =>
              obtain ⟨middle, entries, atEnd, short, slashed⟩ :=
                exists_directory_of_follow_concat followed
              refine ⟨middle, ?_, entries, atEnd⟩
              rcases split with rfl | rfl <;>
                simpa [locate, Path.empty, Path.isAbsolute, absolute,
                  followRelative, working, Path.pieces]
  obtain ⟨trail, isTrail, entries, atEnd⟩ := located
  refine ⟨entries, ?_⟩
  rw [FileSystem.entry, isTrail]
  exact congrArg Except.ok atEnd

/-- What holds of the root holds of the entry at the path of a named entry,
under that name. -/
theorem holds_of_entry_child
    {holds : Name → Entry → Prop}
    (hereditary : Hereditary holds)
    {system : FileSystem}
    (atRoot : holds "" system.root)
    {directory : Path}
    {name : Name}
    (steps : Path.StepsToEntry name)
    {entry : Entry}
    (found : system.entry (directory.child name) = .ok entry) :
    holds name entry := by
  unfold FileSystem.entry at found
  cases located : system.locate (directory.child name) with
  | error failure => simp [located] at found
  | ok trail =>
      obtain ⟨last, before, rfl⟩ := locate_child_eq_ok steps located
      simp only [located, entryAt, Except.ok.injEq] at found
      subst found
      exact onTrail_locate hereditary atRoot located (name, last)
        List.mem_cons_self

end FileSystem
end EnvTags
