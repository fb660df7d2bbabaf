import EnvTags.Proofs.FileSystem.Below
import EnvTags.Proofs.FileSystem.Place
import Mathlib.Data.List.Forall2

/-!
# New files

A file that is written where there was none makes a file system grow by one entry.
Whatever a path led to before it still leads to, up to growth inside, and nothing
but the new file can be found in addition. In particular the same paths lead to
directories.
-/

namespace EnvTags

namespace Entry

/-- A tree and the same tree with at most one file more, in a directory that had
no entry with the name of the file. -/
inductive Grown (name : Name) (content : Content) : Entry → Entry → Prop
  | same (entry : Entry) : Grown name content entry entry
  | here
      {entries : List (Name × Entry)}
      (absent : entries.lookup name = none) :
      Grown name content (directory entries)
        (directory (entries ++ [(name, file content)]))
  | inside
      {before after : List (Name × Entry)}
      {child : Name}
      {inner grown : Entry}
      (isFirst : before.lookup child = none)
      (isGrown : Grown name content inner grown) :
      Grown name content (directory (before ++ (child, inner) :: after))
        (directory (before ++ (child, grown) :: after))

variable {name : Name} {content : Content}

theorem Grown.isDirectory_eq
    {entry grown : Entry}
    (isGrown : Grown name content entry grown) :
    grown.isDirectory = entry.isDirectory := by
  cases isGrown <;> rfl

/-- In a grown tree an entry has its name as before, up to growth, or the new file
has a name that no entry had. -/
theorem Grown.lookup_children
    {entry grown : Entry}
    (isGrown : Grown name content entry grown)
    (other : Name) :
    (∃ inner grownInner, entry.children.lookup other = some inner ∧
        grown.children.lookup other = some grownInner ∧
        Grown name content inner grownInner) ∨
      entry.children.lookup other = none ∧
        (grown.children.lookup other = none ∨
          other = name ∧ grown.children.lookup other = some (file content)) := by
  cases isGrown with
  | same =>
      cases found : entry.children.lookup other with
      | none => simp
      | some inner => exact .inl ⟨inner, inner, rfl, rfl, .same inner⟩
  | @here entries absent =>
      simp only [children, List.lookup_append]
      cases found : entries.lookup other with
      | some inner => exact .inl ⟨inner, inner, rfl, by simp, .same inner⟩
      | none =>
          by_cases isName : other = name
          · subst isName
            simp
          · have differs : (other == name) = false := by simpa using isName
            simp [List.lookup_cons, differs]
  | @inside before after child inner grown isFirst isGrown =>
      simp only [children, List.lookup_append]
      cases found : before.lookup other with
      | some first => exact .inl ⟨first, first, by simp, by simp, .same first⟩
      | none =>
          by_cases isChild : other = child
          · subst isChild
            exact .inl ⟨inner, grown, by simp, by simp, isGrown⟩
          · have differs : (other == child) = false := by simpa using isChild
            cases later : after.lookup other with
            | none => simp [List.lookup_cons, differs, later]
            | some last =>
                exact .inl ⟨last, last, by simp [List.lookup_cons, differs, later],
                  by simp [List.lookup_cons, differs, later], .same last⟩

/-- A tree grows by a file that is put into one of its directories under a new
name. -/
theorem grown_put
    {names : List Name}
    {tree : Entry}
    {entries : List (Name × Entry)}
    (isDirectory : tree.below? names = some (directory entries))
    (absent : entries.lookup name = none) :
    Grown name content tree (put (file content) (names ++ [name]) tree) := by
  induction names generalizing tree with
  | nil =>
      obtain rfl : tree = directory entries := by simpa using isDirectory
      simpa [put, children, setChild_of_lookup_eq_none absent] using
        Grown.here absent
  | cons first names inductionHypothesis =>
      rw [below?_cons] at isDirectory
      obtain ⟨inner, isChild, below⟩ := Option.bind_eq_some_iff.mp isDirectory
      cases tree with
      | file content => simp [children] at isChild
      | directory children =>
          obtain ⟨before, after, rfl, isFirst⟩ := exists_append_of_lookup isChild
          rw [List.cons_append, put, isChild, Option.getD_some, Entry.children,
            setChild_append_cons isFirst]
          exact .inside isFirst (inductionHypothesis below)

end Entry

namespace FileSystem

variable {name : Name} {content : Content}

/-! ## Trails in a grown tree -/

/-- Two trails over the same names, the second one in a grown tree. -/
def TrailsGrown (name : Name) (content : Content) (trail grown : Trail) : Prop :=
  List.Forall₂
    (fun step grownStep => grownStep.1 = step.1 ∧
      Entry.Grown name content step.2 grownStep.2)
    trail grown

section Trails

variable
  {root grownRoot : Entry}
  (rootGrown : Entry.Grown name content root grownRoot)
  {trail grownTrail : Trail}
  (trailsGrown : TrailsGrown name content trail grownTrail)
include rootGrown trailsGrown

theorem TrailsGrown.entryAt :
    Entry.Grown name content (entryAt root trail)
      (entryAt grownRoot grownTrail) := by
  cases trailsGrown with
  | nil => exact rootGrown
  | cons step steps => exact step.2

/-- A piece that can be followed can be followed in a grown tree. -/
theorem TrailsGrown.exists_enter
    {piece : Name}
    {next : Trail}
    (entered : enter root trail piece = .ok next) :
    ∃ grownNext, enter grownRoot grownTrail piece = .ok grownNext ∧
      TrailsGrown name content next grownNext := by
  have atEnd := TrailsGrown.entryAt rootGrown trailsGrown
  obtain ⟨isDirectory, ⟨silent, rfl⟩ | ⟨loud, isUp, rfl⟩ |
    ⟨steps, entry, isChild, rfl⟩⟩ := enter_eq_ok_iff.mp entered
  · exact ⟨grownTrail, enter_eq_ok_iff.mpr
      ⟨atEnd.isDirectory_eq.trans isDirectory, .inl ⟨silent, rfl⟩⟩, trailsGrown⟩
  · refine ⟨grownTrail.tail, enter_eq_ok_iff.mpr
      ⟨atEnd.isDirectory_eq.trans isDirectory, .inr (.inl ⟨loud, isUp, rfl⟩)⟩, ?_⟩
    cases trailsGrown with
    | nil => exact .nil
    | cons step steps => exact steps
  · rcases atEnd.lookup_children piece with
      ⟨inner, grownInner, isInner, isGrown, innerGrown⟩ | ⟨absent, -⟩
    · obtain rfl : inner = entry := Option.some.inj (isInner.symm.trans isChild)
      exact ⟨(piece, grownInner) :: grownTrail, enter_eq_ok_iff.mpr
        ⟨atEnd.isDirectory_eq.trans isDirectory,
          .inr (.inr ⟨steps, grownInner, isGrown, rfl⟩)⟩,
        .cons ⟨rfl, innerGrown⟩ trailsGrown⟩
    · simp [absent] at isChild

/-- A piece that can be followed in a grown tree could be followed before, or it
leads to the new file. -/
theorem TrailsGrown.enter_cases
    {piece : Name}
    {grownNext : Trail}
    (entered : enter grownRoot grownTrail piece = .ok grownNext) :
    (∃ next, enter root trail piece = .ok next ∧
        TrailsGrown name content next grownNext) ∨
      FileSystem.entryAt grownRoot grownNext = .file content := by
  have atEnd := TrailsGrown.entryAt rootGrown trailsGrown
  obtain ⟨isDirectory, ⟨silent, rfl⟩ | ⟨loud, isUp, rfl⟩ |
    ⟨steps, entry, isChild, rfl⟩⟩ := enter_eq_ok_iff.mp entered
  · exact .inl ⟨trail, enter_eq_ok_iff.mpr
      ⟨atEnd.isDirectory_eq.symm.trans isDirectory, .inl ⟨silent, rfl⟩⟩,
      trailsGrown⟩
  · refine .inl ⟨trail.tail, enter_eq_ok_iff.mpr
      ⟨atEnd.isDirectory_eq.symm.trans isDirectory,
        .inr (.inl ⟨loud, isUp, rfl⟩)⟩, ?_⟩
    cases trailsGrown with
    | nil => exact .nil
    | cons step steps => exact steps
  · rcases atEnd.lookup_children piece with
      ⟨inner, grownInner, isInner, isGrown, innerGrown⟩ |
        ⟨-, absent | ⟨-, isNew⟩⟩
    · obtain rfl : grownInner = entry :=
        Option.some.inj (isGrown.symm.trans isChild)
      exact .inl ⟨(piece, inner) :: trail, enter_eq_ok_iff.mpr
        ⟨atEnd.isDirectory_eq.symm.trans isDirectory,
          .inr (.inr ⟨steps, inner, isInner, rfl⟩)⟩,
        .cons ⟨rfl, innerGrown⟩ trailsGrown⟩
    · simp [absent] at isChild
    · exact .inr (Option.some.inj (isChild.symm.trans isNew))

end Trails

/-- Pieces that can be followed can be followed in a grown tree. -/
theorem TrailsGrown.exists_follow
    {root grownRoot : Entry}
    (rootGrown : Entry.Grown name content root grownRoot)
    {trail grownTrail last : Trail}
    (trailsGrown : TrailsGrown name content trail grownTrail)
    {pieces : List Name}
    (followed : follow root trail pieces = .ok last) :
    ∃ grownLast, follow grownRoot grownTrail pieces = .ok grownLast ∧
      TrailsGrown name content last grownLast := by
  induction pieces generalizing trail grownTrail with
  | nil => exact ⟨grownTrail, rfl, Except.ok.inj followed ▸ trailsGrown⟩
  | cons piece pieces inductionHypothesis =>
      simp only [follow] at followed ⊢
      cases entered : enter root trail piece with
      | error failure => simp [entered] at followed
      | ok next =>
          simp only [entered] at followed
          obtain ⟨grownNext, grownEntered, nextGrown⟩ :=
            exists_enter rootGrown trailsGrown entered
          simpa only [grownEntered] using inductionHypothesis nextGrown followed

/-- Pieces that can be followed in a grown tree could be followed before, or they
lead to the new file. Nothing leads on from there. -/
theorem TrailsGrown.follow_cases
    {root grownRoot : Entry}
    (rootGrown : Entry.Grown name content root grownRoot)
    {trail grownTrail grownLast : Trail}
    (trailsGrown : TrailsGrown name content trail grownTrail)
    {pieces : List Name}
    (followed : follow grownRoot grownTrail pieces = .ok grownLast) :
    (∃ last, follow root trail pieces = .ok last ∧
        TrailsGrown name content last grownLast) ∨
      FileSystem.entryAt grownRoot grownLast = .file content := by
  induction pieces generalizing trail grownTrail with
  | nil => exact .inl ⟨trail, rfl, Except.ok.inj followed ▸ trailsGrown⟩
  | cons piece pieces inductionHypothesis =>
      simp only [follow] at followed ⊢
      cases entered : enter grownRoot grownTrail piece with
      | error failure => simp [entered] at followed
      | ok grownNext =>
          simp only [entered] at followed
          rcases enter_cases rootGrown trailsGrown entered with
            ⟨next, before, nextGrown⟩ | isNew
          · simpa only [before] using inductionHypothesis nextGrown followed
          · cases pieces with
            | nil => exact .inr (Except.ok.inj followed ▸ isNew)
            | cons later pieces => simp [follow, enter, isNew] at followed

/-- Two results of following pieces, the second one in a grown tree: both find
something, or both fail in the same way. -/
inductive ResultsGrown (name : Name) (content : Content) :
    Except Failure Trail → Except Failure Trail → Prop
  | found
      {trail grownTrail : Trail}
      (trailsGrown : TrailsGrown name content trail grownTrail) :
      ResultsGrown name content (.ok trail) (.ok grownTrail)
  | failed (failure : Failure) :
      ResultsGrown name content (.error failure) (.error failure)

/-- A piece other than the name of the new file does the same in a grown tree. -/
theorem TrailsGrown.resultsGrown_enter
    {root grownRoot : Entry}
    (rootGrown : Entry.Grown name content root grownRoot)
    {trail grownTrail : Trail}
    (trailsGrown : TrailsGrown name content trail grownTrail)
    {piece : Name}
    (differs : piece ≠ name) :
    ResultsGrown name content (enter root trail piece)
      (enter grownRoot grownTrail piece) := by
  cases entered : enter root trail piece with
  | ok next =>
      obtain ⟨grownNext, grownEntered, nextGrown⟩ :=
        exists_enter rootGrown trailsGrown entered
      rw [grownEntered]
      exact .found nextGrown
  | error failure =>
      have atEnd := TrailsGrown.entryAt rootGrown trailsGrown
      have stillFails : enter grownRoot grownTrail piece = .error failure := by
        rw [enter_eq_error_iff, atEnd.isDirectory_eq]
        rcases enter_eq_error_iff.mp entered with
          isFile | ⟨isDirectory, steps, absent, isNotFound⟩
        · exact .inl isFile
        · rcases atEnd.lookup_children piece with
            ⟨inner, grownInner, isInner, -⟩ | ⟨-, stillAbsent | ⟨isName, -⟩⟩
          · simp [absent] at isInner
          · exact .inr ⟨isDirectory, steps, stillAbsent, isNotFound⟩
          · exact absurd isName differs
      rw [stillFails]
      exact .failed failure

/-- Pieces that give the same in a grown tree do so with one piece more. -/
theorem ResultsGrown.follow_concat
    {root grownRoot : Entry}
    (rootGrown : Entry.Grown name content root grownRoot)
    {pieces : List Name}
    (resultsGrown : ResultsGrown name content (follow root [] pieces)
      (follow grownRoot [] pieces))
    {piece : Name}
    (differs : piece ≠ name) :
    ResultsGrown name content (follow root [] (pieces ++ [piece]))
      (follow grownRoot [] (pieces ++ [piece])) := by
  rw [follow_append, follow_append]
  generalize follow root [] pieces = result at resultsGrown ⊢
  generalize follow grownRoot [] pieces = grownResult at resultsGrown ⊢
  cases resultsGrown with
  | failed failure => exact .failed failure
  | @found trail grownTrail trailsGrown =>
      have entered := trailsGrown.resultsGrown_enter rootGrown differs
      simp only [follow]
      generalize enter root trail piece = result at entered ⊢
      generalize enter grownRoot grownTrail piece = grownResult at entered ⊢
      cases entered with
      | failed failure => exact .failed failure
      | found nextGrown => exact .found nextGrown

/-- From where a slash cannot be followed, no piece can. -/
theorem follow_concat_of_slash_eq_error
    {root : Entry}
    {pieces : List Name}
    {failure : Failure}
    (failed : follow root [] (pieces ++ [.text ""]) = .error failure)
    (piece : Name) :
    follow root [] (pieces ++ [piece]) = .error failure := by
  rw [follow_append] at failed ⊢
  cases before : follow root [] pieces with
  | error cause => simpa [before] using failed
  | ok trail =>
      cases atEnd : entryAt root trail with
      | file content =>
          simpa [before, follow, enter, atEnd] using failed
      | directory entries =>
          simp [before, follow, enter, atEnd, Path.isSilent] at failed

/-! ## Paths in a grown file system -/

/-- A file system and the same one with at most one file more. -/
structure Grown
    (name : Name)
    (content : Content)
    (system next : FileSystem) : Prop where
  root : Entry.Grown name content system.root next.root
  workingDirectory : next.workingDirectory = system.workingDirectory

namespace Grown

variable
  {system next : FileSystem}
  (isGrown : Grown name content system next)
include isGrown

theorem way_eq (path : Path) : next.way path = system.way path := by
  rw [way, way, isGrown.workingDirectory]

/-- Whatever had a path has it still, up to growth. -/
theorem exists_entry
    {path : Path}
    {entry : Entry}
    (found : system.entry path = .ok entry) :
    ∃ grown, next.entry path = .ok grown ∧
      Entry.Grown name content entry grown := by
  unfold FileSystem.entry at found ⊢
  cases located : system.locate path with
  | error failure => simp [located] at found
  | ok trail =>
      have nonempty := ne_empty_of_locate_eq_ok located
      rw [locate_eq_follow system nonempty] at located
      obtain ⟨grownTrail, followed, trailsGrown⟩ :=
        TrailsGrown.exists_follow isGrown.root .nil located
      rw [locate_eq_follow next nonempty, isGrown.way_eq, followed]
      simp only [locate_eq_follow system nonempty, located,
        Except.ok.injEq] at found
      exact ⟨_, rfl, found ▸ TrailsGrown.entryAt isGrown.root trailsGrown⟩

/-- Whatever has a path had it before, up to growth, or it is the new file. -/
theorem entry_cases
    {path : Path}
    {grown : Entry}
    (found : next.entry path = .ok grown) :
    (∃ entry, system.entry path = .ok entry ∧
        Entry.Grown name content entry grown) ∨
      grown = .file content := by
  unfold FileSystem.entry at found ⊢
  cases located : next.locate path with
  | error failure => simp [located] at found
  | ok grownTrail =>
      have nonempty := ne_empty_of_locate_eq_ok located
      simp only [located, Except.ok.injEq] at found
      rw [locate_eq_follow next nonempty, isGrown.way_eq] at located
      rcases TrailsGrown.follow_cases isGrown.root .nil located with
        ⟨trail, followed, trailsGrown⟩ | isNew
      · rw [locate_eq_follow system nonempty, followed]
        exact .inl ⟨_, rfl, found ▸ TrailsGrown.entryAt isGrown.root trailsGrown⟩
      · exact .inr (found ▸ isNew)

/-- The same paths lead to directories. -/
theorem isDirectory_eq (path : Path) :
    next.isDirectory path = system.isDirectory path := by
  rw [Bool.eq_iff_iff]
  constructor
  · intro isDirectory
    obtain ⟨entries, found⟩ := exists_directory_of_isDirectory isDirectory
    rcases isGrown.entry_cases found with ⟨entry, before, entryGrown⟩ | isNew
    · rw [FileSystem.isDirectory, before]
      exact entryGrown.isDirectory_eq.symm
    · cases isNew
  · intro isDirectory
    obtain ⟨entries, found⟩ := exists_directory_of_isDirectory isDirectory
    obtain ⟨grown, after, entryGrown⟩ := isGrown.exists_entry found
    rw [FileSystem.isDirectory, after]
    exact entryGrown.isDirectory_eq

theorem contains_of_contains
    {path : Path}
    (contained : system.contains path = true) :
    next.contains path = true := by
  unfold FileSystem.contains at contained ⊢
  cases found : system.entry path with
  | error failure => simp [found] at contained
  | ok entry =>
      obtain ⟨grown, after, -⟩ := isGrown.exists_entry found
      rw [after]

/-- What is at a path is listed alike, up to growth. -/
theorem readDirectory_cases
    {path : Path}
    (contained : system.contains path = true) :
    (∃ failure, system.readDirectory path = .error failure ∧
        next.readDirectory path = .error failure) ∨
      ∃ entries grownEntries, system.readDirectory path = .ok entries ∧
        next.readDirectory path = .ok grownEntries ∧
        Entry.Grown name content (.directory entries)
          (.directory grownEntries) := by
  unfold FileSystem.readDirectory
  cases found : system.entry path with
  | error failure => simp [FileSystem.contains, found] at contained
  | ok entry =>
      obtain ⟨grown, after, entryGrown⟩ := isGrown.exists_entry found
      rw [after]
      have sameKind := entryGrown.isDirectory_eq
      rcases entry with bytes | entries <;> rcases grown with bytes | grownEntries
      · exact .inl ⟨_, rfl, rfl⟩
      · cases sameKind
      · cases sameKind
      · exact .inr ⟨entries, grownEntries, rfl, rfl, entryGrown⟩

/-- What is found at a path is found in the grown file system. -/
theorem resultsGrown_locate
    {path : Path}
    (contained : system.contains path = true) :
    ResultsGrown name content (system.locate path) (next.locate path) := by
  cases located : system.locate path with
  | error failure => simp [FileSystem.contains, FileSystem.entry, located] at contained
  | ok trail =>
      have nonempty := ne_empty_of_locate_eq_ok located
      rw [locate_eq_follow system nonempty] at located
      obtain ⟨grownTrail, followed, trailsGrown⟩ :=
        TrailsGrown.exists_follow isGrown.root .nil located
      rw [locate_eq_follow next nonempty, isGrown.way_eq, followed]
      exact .found trailsGrown

/-- Where paths lead alike, so do the paths that continue them by another name
than that of the new file. -/
theorem resultsGrown_locate_child
    {base : Path}
    (nonempty : base ≠ Path.empty)
    (resultsGrown : ResultsGrown name content (system.locate base)
      (next.locate base))
    {other : Name}
    (differs : other ≠ name) :
    ResultsGrown name content (system.locate (base.child other))
      (next.locate (base.child other)) := by
  have childNonempty := Path.child_ne_empty nonempty other
  obtain ⟨before, childWay, slashed⟩ := system.exists_way_child base
  rw [locate_eq_follow system nonempty, locate_eq_follow next nonempty,
    isGrown.way_eq] at resultsGrown
  rw [locate_eq_follow system childNonempty, locate_eq_follow next childNonempty,
    isGrown.way_eq, childWay]
  rcases slashed nonempty with isWay | isWay
  · rw [isWay] at resultsGrown
    exact resultsGrown.follow_concat isGrown.root differs
  · rw [isWay] at resultsGrown
    generalize result : follow system.root [] (before ++ [.text ""]) = found at resultsGrown
    generalize grownResult : follow next.root [] (before ++ [.text ""]) = grownFound
      at resultsGrown
    cases resultsGrown with
    | failed failure =>
        rw [follow_concat_of_slash_eq_error result,
          follow_concat_of_slash_eq_error grownResult]
        exact .failed failure
    | found trailsGrown =>
        obtain ⟨middle, -, -, short, long⟩ :=
          exists_directory_of_follow_concat result
        obtain ⟨grownMiddle, -, -, grownShort, grownLong⟩ :=
          exists_directory_of_follow_concat grownResult
        obtain rfl := Except.ok.inj (long.symm.trans result)
        obtain rfl := Except.ok.inj (grownLong.symm.trans grownResult)
        refine ResultsGrown.follow_concat isGrown.root ?_ differs
        rw [short, grownShort]
        exact .found trailsGrown

/-- Where paths lead alike, files have the same texts. -/
theorem readText_eq
    {path : Path}
    (resultsGrown : ResultsGrown name content (system.locate path)
      (next.locate path)) :
    next.readText path = system.readText path := by
  unfold FileSystem.readText FileSystem.entry
  generalize system.locate path = result at resultsGrown ⊢
  generalize next.locate path = grownResult at resultsGrown ⊢
  cases resultsGrown with
  | failed failure => rfl
  | @found trail grownTrail trailsGrown =>
      have atEnd := TrailsGrown.entryAt isGrown.root trailsGrown
      simp only
      generalize entryAt system.root trail = entry at atEnd ⊢
      generalize entryAt next.root grownTrail = grown at atEnd ⊢
      cases atEnd <;> rfl

/-- In a directory the files with other names have the same texts. -/
theorem readText_child_eq
    {directory : Path}
    (isDirectory : system.isDirectory directory = true)
    {other : Name}
    (differs : other ≠ name) :
    next.readText (directory.child other) =
      system.readText (directory.child other) := by
  have contained := contains_of_isDirectory isDirectory
  apply isGrown.readText_eq
  exact isGrown.resultsGrown_locate_child (ne_empty_of_contains contained)
    (isGrown.resultsGrown_locate contained) differs

/-- Beside a new file the files with other names have the same texts. -/
theorem readText_beside_eq
    {directory : Path}
    {trail : Trail}
    (located : system.locateParent (directory.child name) = .ok trail)
    {other : Name}
    (steps : Path.StepsToEntry other)
    (differs : other ≠ name) :
    next.readText (directory.child other) =
      system.readText (directory.child other) := by
  have nonempty : directory.child other ≠ Path.empty := by
    intro isEmpty
    have components := Path.components_child directory steps
    simp [isEmpty, Path.components, Path.empty] at components
  obtain ⟨before, childWay, -⟩ := system.exists_way_child directory
  rw [locateParent_eq_follow, childWay, List.dropLast_concat] at located
  obtain ⟨grownTrail, followed, trailsGrown⟩ :=
    TrailsGrown.exists_follow isGrown.root .nil located
  apply isGrown.readText_eq
  rw [locate_eq_follow system nonempty, locate_eq_follow next nonempty,
    isGrown.way_eq, childWay]
  refine ResultsGrown.follow_concat isGrown.root ?_ differs
  rw [located, followed]
  exact .found trailsGrown

end Grown

/-! ## Written files -/

/-- A text is written into a directory, under a name that no directory has. -/
theorem writeText_eq_ok
    {system next : FileSystem}
    {path : Path}
    {characters : String}
    (written : system.writeText path characters = .ok next) :
    path ≠ Path.empty ∧
      ∃ trail, system.locateParent path = .ok trail ∧
        (entryAt system.root trail).isDirectory = true ∧
        Path.StepsToEntry (splitLast path).2 ∧
        next = { system with
          root := Entry.put (.file (.text characters))
            ((trail.map Prod.fst).reverse ++ [(splitLast path).2])
            system.root } := by
  unfold writeText at written
  split at written
  · cases written
  · rename_i nonempty
    refine ⟨nonempty, ?_⟩
    split at written
    · cases written
    · rename_i trail located
      refine ⟨trail, located, ?_⟩
      split at written
      · cases written
      · rename_i entries atEnd
        simp only at written
        split at written
        · cases written
        · rename_i loud
          rw [Bool.or_eq_true, not_or, Bool.not_eq_true, beq_iff_eq] at loud
          split at written
          · cases written
          · exact ⟨by rw [atEnd]; rfl, loud, (Except.ok.inj written).symm⟩

theorem TrailsGrown.map_fst_eq
    {trail grownTrail : Trail}
    (trailsGrown : TrailsGrown name content trail grownTrail) :
    grownTrail.map Prod.fst = trail.map Prod.fst := by
  induction trailsGrown with
  | nil => rfl
  | cons step steps inductionHypothesis =>
      rw [List.map_cons, List.map_cons, step.1, inductionHypothesis]

/-- A path leads to the entry with its last piece as a name in the directory that
the other pieces lead to. -/
theorem entry_eq_ok_of_lookup
    {system : FileSystem}
    {path : Path}
    (nonempty : path ≠ Path.empty)
    {trail : Trail}
    (located : system.locateParent path = .ok trail)
    (steps : Path.StepsToEntry (splitLast path).2)
    {entry : Entry}
    (isChild : (entryAt system.root trail).children.lookup (splitLast path).2 =
      some entry) :
    system.entry path = .ok entry := by
  have isDirectory : (entryAt system.root trail).isDirectory = true := by
    cases atEnd : entryAt system.root trail with
    | file content => simp [atEnd, Entry.children] at isChild
    | directory entries => rfl
  have entered := enter_eq_ok_iff.mpr
    ⟨isDirectory, .inr (.inr ⟨steps, entry, isChild, rfl⟩)⟩
  rw [FileSystem.entry, locate_eq_follow system nonempty,
    way_eq_concat system nonempty, follow_append, ← locateParent_eq_follow, located]
  simp [follow, entered, entryAt]

/-- A text that is written where nothing was makes the file system grow by a file
with the text, which is found there. -/
theorem grown_of_writeText
    {system next : FileSystem}
    {path : Path}
    {characters : String}
    (isNew : system.contains path = false)
    (written : system.writeText path characters = .ok next) :
    Grown (splitLast path).2 (.text characters) system next ∧
      next.entry path = .ok (.file (.text characters)) := by
  obtain ⟨nonempty, trail, located, isDirectory, steps, rfl⟩ :=
    writeText_eq_ok written
  have followed := (locateParent_eq_follow system path).symm.trans located
  have absent : (entryAt system.root trail).children.lookup (splitLast path).2 =
      none := by
    rw [Option.eq_none_iff_forall_ne_some]
    intro entry isChild
    have contained := contains_of_entry_eq_ok
      (entry_eq_ok_of_lookup nonempty located steps isChild)
    simp [contained] at isNew
  have isGrown : Grown (splitLast path).2 (.text characters) system
      { system with
        root := Entry.put (.file (.text characters))
          ((trail.map Prod.fst).reverse ++ [(splitLast path).2]) system.root } := by
    refine ⟨?_, rfl⟩
    have below := below?_of_isTrail (isTrail_follow (isTrail_nil _) followed)
    cases atEnd : entryAt system.root trail with
    | file content => simp [atEnd, Entry.isDirectory] at isDirectory
    | directory entries =>
        rw [atEnd] at below absent
        exact Entry.grown_put below absent
  refine ⟨isGrown, ?_⟩
  -- The directory part of the path leads to the same names in the grown tree.
  obtain ⟨grownTrail, grownFollowed, trailsGrown⟩ :=
    TrailsGrown.exists_follow isGrown.root .nil followed
  have below := below?_of_isTrail (isTrail_follow (isTrail_nil _) grownFollowed)
  rw [trailsGrown.map_fst_eq] at below
  have isPut := Entry.below?_put (.file (.text characters))
    ((trail.map Prod.fst).reverse ++ [(splitLast path).2]) system.root
  rw [Entry.below?_append, below, Option.bind_some, Entry.below?_cons] at isPut
  obtain ⟨entry, isChild, isEntry⟩ := Option.bind_eq_some_iff.mp isPut
  obtain rfl : entry = .file (.text characters) := Option.some.inj isEntry
  refine entry_eq_ok_of_lookup nonempty ?_ steps isChild
  rw [locateParent_eq_follow, isGrown.way_eq, grownFollowed]

end FileSystem
end EnvTags
