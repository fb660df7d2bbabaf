import EnvTags.Proofs.FileSystem.Lookup
import Mathlib.Data.List.Basic

/-!
# Paths to the same place

Paths with the same components differ only in pieces without effect. Such a piece
needs a directory but does not leave it, so wherever two of these paths lead,
they lead to the same entry. The entries of a directory are found at its path,
continued by their names.
-/

namespace EnvTags

namespace Path

theorem Component.ofPiece_injective : Function.Injective Component.ofPiece := by
  intro left right same
  unfold Component.ofPiece at same
  split at same <;> split at same <;> simp_all

/-- The components of pieces are those of the pieces with an effect, and no two
of these have the same one. -/
theorem filter_eq_of_innerComponents_eq
    {left right : List Name}
    (same : innerComponents left = innerComponents right) :
    left.filter (fun piece => !isSilent piece) =
      right.filter fun piece => !isSilent piece :=
  List.map_injective_iff.mpr Component.ofPiece_injective same

/-- The component of the first piece of a path. -/
def startComponent (head : Name) : Component :=
  if head = "" then .root else if head = "." then .here else .ofPiece head

theorem headComponents_eq (head : Name) :
    headComponents head = [startComponent head] := by
  unfold headComponents startComponent
  split
  · rfl
  · split
    · rfl
    · simp_all [innerComponents, isSilent]

theorem startComponent_injective : Function.Injective startComponent := by
  intro left right same
  unfold startComponent Component.ofPiece at same
  split_ifs at same <;> simp_all

/-- A path that is not empty is absolute if it starts with a slash. -/
theorem isAbsolute_eq_of_ne_empty
    {path : Path}
    (nonempty : path ≠ empty) :
    path.isAbsolute = (path.head == "") := by
  obtain ⟨head, tail⟩ := path
  cases tail with
  | nil => simp_all [isAbsolute, empty]
  | cons piece pieces => simp [isAbsolute]

/-- Paths with the same components start with the same piece and go on with the
same pieces that have an effect. -/
theorem eq_of_components_eq
    {left right : Path}
    (leftNonempty : left ≠ empty)
    (rightNonempty : right ≠ empty)
    (same : left.components = right.components) :
    left.head = right.head ∧
      left.tail.filter (fun piece => !isSilent piece) =
        right.tail.filter fun piece => !isSilent piece := by
  rw [components_eq_of_ne_empty leftNonempty,
    components_eq_of_ne_empty rightNonempty, headComponents_eq,
    headComponents_eq, List.singleton_append, List.singleton_append,
    List.cons.injEq] at same
  exact ⟨startComponent_injective same.1,
    filter_eq_of_innerComponents_eq same.2⟩

/-- Only the empty path has no components. -/
theorem eq_empty_of_components_eq_nil
    {path : Path}
    (isNil : path.components = []) :
    path = empty := by
  by_contra nonempty
  rw [components_eq_of_ne_empty nonempty, headComponents_eq] at isNil
  cases isNil

end Path

namespace FileSystem

/-! ## Pieces without effect -/

/-- Pieces without effect can be left out. -/
theorem follow_filter_of_eq_ok
    {root : Entry}
    {trail last : Trail}
    {pieces : List Name}
    (followed : follow root trail pieces = .ok last) :
    follow root trail (pieces.filter fun piece => !Path.isSilent piece) =
      .ok last := by
  induction pieces generalizing trail with
  | nil => exact followed
  | cons piece pieces inductionHypothesis =>
      rw [follow] at followed
      cases entered : enter root trail piece with
      | error failure => simp [entered] at followed
      | ok next =>
          simp only [entered] at followed
          have rest := inductionHypothesis followed
          by_cases silent : Path.isSilent piece = true
          · have stays : next = trail := by
              unfold enter at entered
              cases atEnd : entryAt root trail with
              | file content => simp [atEnd] at entered
              | directory entries =>
                  simpa [atEnd, silent, eq_comm] using entered
            subst stays
            simpa [List.filter_cons, silent] using rest
          · simpa [List.filter_cons, silent, follow, entered] using rest

/-- On the way to a directory, pieces without effect can be put in. -/
theorem follow_of_filter_eq_ok
    {root : Entry}
    {trail last : Trail}
    {pieces : List Name}
    (followed : follow root trail
      (pieces.filter fun piece => !Path.isSilent piece) = .ok last)
    (isDirectory : (entryAt root last).isDirectory = true) :
    follow root trail pieces = .ok last := by
  induction pieces generalizing trail with
  | nil => exact followed
  | cons piece pieces inductionHypothesis =>
      by_cases silent : Path.isSilent piece = true
      · rw [List.filter_cons_of_neg (by simp [silent])] at followed
        have rest := inductionHypothesis followed
        -- The piece stays where it is, and that is a directory: more pieces are
        -- followed from there, or it is the end of the way.
        cases atStart : entryAt root trail with
        | directory entries =>
            simp [follow, enter, atStart, silent, rest]
        | file content =>
            cases pieces with
            | nil =>
                obtain rfl := Except.ok.inj followed
                simp [atStart, Entry.isDirectory] at isDirectory
            | cons next others =>
                simp [follow, enter, atStart] at rest
      · rw [List.filter_cons_of_pos (by simp [silent]), follow] at followed
        rw [follow]
        cases entered : enter root trail piece with
        | error failure => simp [entered] at followed
        | ok next =>
            simp only [entered] at followed ⊢
            exact inductionHypothesis followed

/-- Pieces that differ only in those without effect lead to the same place. -/
theorem eq_of_follow_eq_ok
    {root : Entry}
    {trail first second : Trail}
    {left right : List Name}
    (same : left.filter (fun piece => !Path.isSilent piece) =
      right.filter fun piece => !Path.isSilent piece)
    (ofLeft : follow root trail left = .ok first)
    (ofRight : follow root trail right = .ok second) :
    first = second := by
  have filteredLeft := follow_filter_of_eq_ok ofLeft
  have filteredRight := follow_filter_of_eq_ok ofRight
  rw [same, filteredRight] at filteredLeft
  exact (Except.ok.inj filteredLeft).symm

theorem ne_empty_of_locate_eq_ok
    {system : FileSystem}
    {path : Path}
    {trail : Trail}
    (located : system.locate path = .ok trail) :
    path ≠ Path.empty := by
  rintro rfl
  simp [locate] at located

/-- Paths with the same components lead to the same place. -/
theorem locate_eq_of_components_eq
    {system : FileSystem}
    {left right : Path}
    (same : left.components = right.components)
    {first second : Trail}
    (ofLeft : system.locate left = .ok first)
    (ofRight : system.locate right = .ok second) :
    first = second := by
  have leftNonempty := ne_empty_of_locate_eq_ok ofLeft
  have rightNonempty := ne_empty_of_locate_eq_ok ofRight
  obtain ⟨sameHead, sameTail⟩ :=
    Path.eq_of_components_eq leftNonempty rightNonempty same
  have sameStart : left.isAbsolute = right.isAbsolute := by
    rw [Path.isAbsolute_eq_of_ne_empty leftNonempty,
      Path.isAbsolute_eq_of_ne_empty rightNonempty, sameHead]
  rw [locate, if_neg leftNonempty, sameStart] at ofLeft
  rw [locate, if_neg rightNonempty] at ofRight
  split at ofLeft
  · rename_i absolute
    rw [if_pos absolute] at ofRight
    exact eq_of_follow_eq_ok sameTail ofLeft ofRight
  · rename_i relative
    rw [if_neg relative] at ofRight
    unfold followRelative at ofLeft ofRight
    cases working : follow system.root [] system.workingDirectory with
    | error failure => simp [working] at ofLeft
    | ok trail =>
        simp only [working] at ofLeft ofRight
        refine eq_of_follow_eq_ok ?_ ofLeft ofRight
        simp [Path.pieces, List.filter_cons, sameHead, sameTail]

/-- Paths with the same components have the same entry, where they have one. -/
theorem entry_eq_of_components_eq
    {system : FileSystem}
    {left right : Path}
    (same : left.components = right.components)
    {first second : Entry}
    (ofLeft : system.entry left = .ok first)
    (ofRight : system.entry right = .ok second) :
    first = second := by
  unfold FileSystem.entry at ofLeft ofRight
  cases locatedLeft : system.locate left with
  | error failure => simp [locatedLeft] at ofLeft
  | ok trail =>
      cases locatedRight : system.locate right with
      | error failure => simp [locatedRight] at ofRight
      | ok other =>
          obtain rfl := locate_eq_of_components_eq same locatedLeft locatedRight
          simp only [locatedLeft, Except.ok.injEq] at ofLeft
          simp only [locatedRight, Except.ok.injEq] at ofRight
          rw [← ofLeft, ← ofRight]

/-- A directory is located at every path with its components. -/
theorem locate_eq_of_isDirectory
    {system : FileSystem}
    {left right : Path}
    (same : left.components = right.components)
    {trail : Trail}
    (located : system.locate left = .ok trail)
    (isDirectory : (entryAt system.root trail).isDirectory = true) :
    system.locate right = .ok trail := by
  have leftNonempty := ne_empty_of_locate_eq_ok located
  have rightNonempty : right ≠ Path.empty := by
    rintro rfl
    exact leftNonempty (Path.eq_empty_of_components_eq_nil same)
  obtain ⟨sameHead, sameTail⟩ :=
    Path.eq_of_components_eq leftNonempty rightNonempty same
  have sameStart : right.isAbsolute = left.isAbsolute := by
    rw [Path.isAbsolute_eq_of_ne_empty leftNonempty,
      Path.isAbsolute_eq_of_ne_empty rightNonempty, sameHead]
  rw [locate, if_neg leftNonempty] at located
  rw [locate, if_neg rightNonempty, sameStart]
  split at located
  · rename_i absolute
    rw [if_pos absolute]
    refine follow_of_filter_eq_ok ?_ isDirectory
    rw [← sameTail]
    exact follow_filter_of_eq_ok located
  · rename_i relative
    rw [if_neg relative]
    unfold followRelative at located ⊢
    cases working : follow system.root [] system.workingDirectory with
    | error failure => simp [working] at located
    | ok start =>
        simp only [working] at located ⊢
        refine follow_of_filter_eq_ok ?_ isDirectory
        have samePieces : right.pieces.filter (fun piece => !Path.isSilent piece) =
            left.pieces.filter fun piece => !Path.isSilent piece := by
          simp [Path.pieces, List.filter_cons, sameHead, sameTail]
        rw [samePieces]
        exact follow_filter_of_eq_ok located

/-- A directory is found at every path with its components. -/
theorem entry_eq_of_isDirectory
    {system : FileSystem}
    {left right : Path}
    (same : left.components = right.components)
    (isDirectory : system.isDirectory left = true) :
    system.entry right = system.entry left := by
  unfold FileSystem.isDirectory at isDirectory
  unfold FileSystem.entry at isDirectory ⊢
  cases located : system.locate left with
  | error failure => simp [located] at isDirectory
  | ok trail =>
      rw [locate_eq_of_isDirectory same located
        (by simpa [located] using isDirectory)]

/-! ## The entries of a directory -/

theorem exists_directory_of_isDirectory
    {system : FileSystem}
    {path : Path}
    (isDirectory : system.isDirectory path = true) :
    ∃ entries, system.entry path = .ok (.directory entries) := by
  unfold FileSystem.isDirectory at isDirectory
  rcases found : system.entry path with failure | content | entries
  · simp [found] at isDirectory
  · simp [found, Entry.isDirectory] at isDirectory
  · exact ⟨entries, rfl⟩

theorem contains_of_entry_eq_ok
    {system : FileSystem}
    {path : Path}
    {entry : Entry}
    (found : system.entry path = .ok entry) :
    system.contains path = true := by
  rw [FileSystem.contains, found]

theorem contains_of_isDirectory
    {system : FileSystem}
    {path : Path}
    (isDirectory : system.isDirectory path = true) :
    system.contains path = true := by
  obtain ⟨entries, found⟩ := exists_directory_of_isDirectory isDirectory
  exact contains_of_entry_eq_ok found

/-- Nothing is at the empty path. -/
theorem ne_empty_of_contains
    {system : FileSystem}
    {path : Path}
    (contained : system.contains path = true) :
    path ≠ Path.empty := by
  rintro rfl
  simp [FileSystem.contains, FileSystem.entry, locate] at contained

theorem isDirectory_of_readDirectory
    {system : FileSystem}
    {path : Path}
    {entries : List (Name × Entry)}
    (read : system.readDirectory path = .ok entries) :
    system.isDirectory path = true := by
  unfold readDirectory at read
  unfold FileSystem.isDirectory
  rcases found : system.entry path with failure | content | others
  · simp [found] at read
  · simp [found] at read
  · rfl

/-- A file is read from a directory. -/
theorem isDirectory_of_readText_child
    {system : FileSystem}
    {base : Path}
    (nonempty : base ≠ Path.empty)
    {name : Name}
    {source : String}
    (read : system.readText (base.child name) = .ok source) :
    system.isDirectory base = true := by
  unfold readText at read
  cases found : system.entry (base.child name) with
  | error failure => simp [found] at read
  | ok entry =>
      obtain ⟨entries, isDirectory⟩ :=
        exists_directory_of_entry_child nonempty found
      rw [FileSystem.isDirectory, isDirectory]
      rfl

/-- A last slash stays in the directory. -/
theorem follow_of_slash
    {root : Entry}
    {start trail : Trail}
    {whole pieces : List Name}
    (split : whole = pieces ∨ whole = pieces ++ [.text ""])
    (followed : follow root start whole = .ok trail) :
    follow root start pieces = .ok trail := by
  rcases split with rfl | rfl
  · exact followed
  · obtain ⟨middle, _, _, short, slashed⟩ :=
      exists_directory_of_follow_concat followed
    rw [followed] at slashed
    rw [short, slashed]

/-- The way to a directory goes on to the entry with a name. -/
theorem follow_concat_eq
    {root : Entry}
    {start trail : Trail}
    {pieces : List Name}
    (followed : follow root start pieces = .ok trail)
    {entries : List (Name × Entry)}
    (atEnd : entryAt root trail = .directory entries)
    {name : Name}
    (steps : Path.StepsToEntry name) :
    follow root start (pieces ++ [name]) =
      match entries.lookup name with
      | none => .error .notFound
      | some entry => .ok ((name, entry) :: trail) := by
  rw [follow_append, followed]
  simp only [follow, enter, atEnd, steps.1, steps.2, if_false,
    Bool.false_eq_true]
  cases entries.lookup name <;> rfl

theorem locate_child_eq
    {system : FileSystem}
    {base : Path}
    {trail : Trail}
    (found : system.locate base = .ok trail)
    {entries : List (Name × Entry)}
    (atEnd : entryAt system.root trail = .directory entries)
    {name : Name}
    (steps : Path.StepsToEntry name) :
    system.locate (base.child name) =
      match entries.lookup name with
      | none => .error .notFound
      | some entry => .ok ((name, entry) :: trail) := by
  have nonempty := ne_empty_of_locate_eq_ok found
  obtain ⟨tail, child, split⟩ := Path.child_eq_of_ne_empty nonempty name
  have childNonempty : base.child name ≠ Path.empty := by
    simp [child, Path.empty]
  have sameStart : (base.child name).isAbsolute = base.isAbsolute := by
    rw [Path.isAbsolute_eq_of_ne_empty nonempty,
      Path.isAbsolute_eq_of_ne_empty childNonempty, child]
  rw [locate, if_neg nonempty] at found
  rw [locate, if_neg childNonempty, sameStart, child]
  split at found
  · rename_i absolute
    rw [if_pos absolute]
    exact follow_concat_eq (follow_of_slash split found) atEnd steps
  · rename_i relative
    rw [if_neg relative]
    unfold followRelative at found ⊢
    cases working : follow system.root [] system.workingDirectory with
    | error failure => simp [working] at found
    | ok start =>
        simp only [working] at found ⊢
        have splitPieces : base.pieces = base.head :: tail ∨
            base.pieces = (base.head :: tail) ++ [.text ""] := by
          rcases split with whole | whole <;> simp [Path.pieces, whole]
        exact follow_concat_eq (follow_of_slash splitPieces found) atEnd steps

/-- The path of a directory, continued by a name, leads to the entry with that
name. -/
theorem entry_child_eq
    {system : FileSystem}
    {base : Path}
    {entries : List (Name × Entry)}
    (isDirectory : system.entry base = .ok (.directory entries))
    {name : Name}
    (steps : Path.StepsToEntry name) :
    system.entry (base.child name) =
      match entries.lookup name with
      | none => .error .notFound
      | some entry => .ok entry := by
  unfold FileSystem.entry at isDirectory ⊢
  cases found : system.locate base with
  | error failure => simp [found] at isDirectory
  | ok trail =>
      rw [locate_child_eq found (by simpa [found] using isDirectory) steps]
      cases entries.lookup name <;> rfl

/-- The entries of a directory do not depend on how its path is written. -/
theorem readText_child_eq_of_components_eq
    {system : FileSystem}
    {left right : Path}
    (same : left.components = right.components)
    (ofLeft : system.isDirectory left = true)
    (ofRight : system.isDirectory right = true)
    {name : Name}
    (steps : Path.StepsToEntry name) :
    system.readText (left.child name) = system.readText (right.child name) := by
  obtain ⟨entries, isLeft⟩ := exists_directory_of_isDirectory ofLeft
  obtain ⟨others, isRight⟩ := exists_directory_of_isDirectory ofRight
  have sameEntries : entries = others :=
    Entry.directory.inj (entry_eq_of_components_eq same isLeft isRight)
  rw [readText, readText, entry_child_eq isLeft steps,
    entry_child_eq isRight steps, sameEntries]

end FileSystem
end EnvTags
