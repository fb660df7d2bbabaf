import EnvTags.Proofs.FileSystem.Place

/-!
# Rows of names

A row of names leads from an entry down to another one. A path may also step to
parents and stay where it is, but in the end the entry that it leads to stands at
the end of a row of names below the root.
-/

namespace EnvTags

namespace Entry

/-- The entry that a row of names leads to. -/
def below? : Entry → List Name → Option Entry
  | entry, [] => some entry
  | entry, name :: names =>
      (entry.children.lookup name).bind fun child => child.below? names

@[simp] theorem below?_nil (entry : Entry) : entry.below? [] = some entry := rfl

theorem below?_cons
    (entry : Entry)
    (name : Name)
    (names : List Name) :
    entry.below? (name :: names) =
      (entry.children.lookup name).bind fun child => child.below? names := rfl

theorem below?_append (entry : Entry) (left right : List Name) :
    entry.below? (left ++ right) =
      (entry.below? left).bind fun middle => middle.below? right := by
  induction left generalizing entry with
  | nil => rfl
  | cons name left inductionHypothesis =>
      rw [List.cons_append, below?_cons, below?_cons, Option.bind_assoc]
      simp only [inductionHypothesis]

/-- There is an entry wherever a row of names that leads to one comes through. -/
theorem exists_below?_of_prefix
    {entry found : Entry}
    {part names : List Name}
    (isFound : entry.below? names = some found)
    (isPart : part <+: names) :
    ∃ middle, entry.below? part = some middle := by
  obtain ⟨rest, rfl⟩ := isPart
  rw [below?_append] at isFound
  obtain ⟨middle, isMiddle, -⟩ := Option.bind_eq_some_iff.mp isFound
  exact ⟨middle, isMiddle⟩

/-! ## Entries that are put into a tree -/

section Put

variable {name : Name}

theorem setChild_of_lookup_eq_none
    {entries : List (Name × Entry)}
    (absent : entries.lookup name = none)
    (entry : Entry) :
    setChild name entry entries = entries ++ [(name, entry)] := by
  induction entries with
  | nil => rfl
  | cons first entries inductionHypothesis =>
      rw [List.lookup_cons] at absent
      by_cases isName : first.1 = name
      · simp [isName] at absent
      · have differs : (name == first.1) = false := by
          simpa using Ne.symm isName
        rw [differs] at absent
        simp [setChild, isName, inductionHypothesis absent]

theorem setChild_append_cons
    {before : List (Name × Entry)}
    (isFirst : before.lookup name = none)
    (after : List (Name × Entry))
    (old entry : Entry) :
    setChild name entry (before ++ (name, old) :: after) =
      before ++ (name, entry) :: after := by
  induction before with
  | nil => simp [setChild]
  | cons first before inductionHypothesis =>
      rw [List.lookup_cons] at isFirst
      by_cases isName : first.1 = name
      · simp [isName] at isFirst
      · have differs : (name == first.1) = false := by
          simpa using Ne.symm isName
        rw [differs] at isFirst
        simp [setChild, isName, inductionHypothesis isFirst]

/-- The entry with a name stands between others, and none before it has that
name. -/
theorem exists_append_of_lookup
    {entries : List (Name × Entry)}
    {entry : Entry}
    (found : entries.lookup name = some entry) :
    ∃ before after, entries = before ++ (name, entry) :: after ∧
      before.lookup name = none := by
  obtain ⟨before, after, split, differ⟩ := List.lookup_eq_some_iff.mp found
  exact ⟨before, after, split, List.lookup_eq_none_iff.mpr differ⟩

theorem lookup_setChild
    (entry : Entry)
    (entries : List (Name × Entry)) :
    (setChild name entry entries).lookup name = some entry := by
  cases found : entries.lookup name with
  | none => simp [setChild_of_lookup_eq_none found, List.lookup_append, found]
  | some old =>
      obtain ⟨before, after, rfl, isFirst⟩ := exists_append_of_lookup found
      simp [setChild_append_cons isFirst, List.lookup_append, isFirst]

/-- What is put at the end of a row of names is found there. -/
theorem below?_put
    (entry : Entry)
    (names : List Name)
    (tree : Entry) :
    (put entry names tree).below? names = some entry := by
  induction names generalizing tree with
  | nil => rfl
  | cons name names inductionHypothesis =>
      simp [put, below?_cons, children, lookup_setChild, inductionHypothesis]

end Put

end Entry

namespace FileSystem

/-! ## Trails -/

/-- What a piece of a path does: it needs a directory, in which it stays, from
which it goes back, or in which it steps to an entry. -/
theorem enter_eq_ok_iff
    {root : Entry}
    {trail next : Trail}
    {piece : Name} :
    enter root trail piece = .ok next ↔
      (entryAt root trail).isDirectory = true ∧
        (Path.isSilent piece = true ∧ next = trail ∨
          Path.isSilent piece = false ∧ piece = ".." ∧ next = trail.tail ∨
          Path.StepsToEntry piece ∧
            ∃ entry, (entryAt root trail).children.lookup piece = some entry ∧
              next = (piece, entry) :: trail) := by
  unfold enter Path.StepsToEntry
  cases entryAt root trail with
  | file content => simp [Entry.isDirectory]
  | directory entries =>
      simp only [Entry.isDirectory, Entry.children]
      by_cases silent : Path.isSilent piece = true
      · simp [silent, @eq_comm _ next]
      · by_cases up : piece = ".."
        · subst up
          simp [silent, @eq_comm _ next]
        · cases entries.lookup piece <;> simp [silent, up, @eq_comm _ next]

/-- A piece cannot be followed from a file, and not to an entry that is not
there. -/
theorem enter_eq_error_iff
    {root : Entry}
    {trail : Trail}
    {piece : Name}
    {failure : Failure} :
    enter root trail piece = .error failure ↔
      (entryAt root trail).isDirectory = false ∧ failure = .notDirectory ∨
        (entryAt root trail).isDirectory = true ∧ Path.StepsToEntry piece ∧
          (entryAt root trail).children.lookup piece = none ∧
          failure = .notFound := by
  unfold enter Path.StepsToEntry
  cases entryAt root trail with
  | file content => simp [Entry.isDirectory, @eq_comm _ failure]
  | directory entries =>
      simp only [Entry.isDirectory, Entry.children]
      by_cases silent : Path.isSilent piece = true
      · simp [silent]
      · by_cases up : piece = ".."
        · subst up
          simp [silent]
        · cases entries.lookup piece <;> simp [silent, up, @eq_comm _ failure]

/-- Every entry on a trail is in the directory before it. -/
def IsTrail (root : Entry) : Trail → Prop
  | [] => True
  | (name, entry) :: steps =>
      (entryAt root steps).children.lookup name = some entry ∧
        IsTrail root steps

theorem isTrail_nil (root : Entry) : IsTrail root [] := trivial

theorem isTrail_enter
    {root : Entry}
    {trail next : Trail}
    {piece : Name}
    (isTrail : IsTrail root trail)
    (entered : enter root trail piece = .ok next) :
    IsTrail root next := by
  obtain ⟨-, stays | goesBack | ⟨-, entry, isChild, rfl⟩⟩ :=
    enter_eq_ok_iff.mp entered
  · exact stays.2 ▸ isTrail
  · rw [goesBack.2.2]
    cases trail with
    | nil => exact isTrail
    | cons step steps => exact isTrail.2
  · exact ⟨isChild, isTrail⟩

/-- Whoever follows pieces of paths leaves a trail. -/
theorem isTrail_follow
    {root : Entry}
    {trail last : Trail}
    {pieces : List Name}
    (isTrail : IsTrail root trail)
    (followed : follow root trail pieces = .ok last) :
    IsTrail root last :=
  follow_preserves isTrail_enter isTrail followed

/-- The names on a trail lead to the entry at its end. -/
theorem below?_of_isTrail
    {root : Entry}
    {trail : Trail}
    (isTrail : IsTrail root trail) :
    root.below? (trail.map Prod.fst).reverse = some (entryAt root trail) := by
  induction trail with
  | nil => rfl
  | cons step steps inductionHypothesis =>
      obtain ⟨isChild, rest⟩ := isTrail
      have isEnd : entryAt root (step :: steps) = step.2 := rfl
      simp [Entry.below?_append, inductionHypothesis rest, Entry.below?_cons,
        isChild, isEnd]

/-! ## The way to a path -/

/-- The pieces that are followed from the root to a path. -/
def way (system : FileSystem) (path : Path) : List Name :=
  if path.isAbsolute then path.tail
  else system.workingDirectory ++ path.pieces

theorem locate_eq_follow
    (system : FileSystem)
    {path : Path}
    (nonempty : path ≠ Path.empty) :
    system.locate path = follow system.root [] (system.way path) := by
  rw [locate, if_neg nonempty, way]
  split
  · rfl
  · rw [follow_append]
    rfl

/-- The way to a path ends with its last piece. -/
theorem way_eq_concat
    (system : FileSystem)
    {path : Path}
    (nonempty : path ≠ Path.empty) :
    system.way path = (system.way path).dropLast ++ [(splitLast path).2] := by
  obtain ⟨head, tail⟩ := path
  have last : (splitLast ⟨head, tail⟩).2 = (head :: tail).getLast (by simp) := by
    cases tail with
    | nil => rfl
    | cons piece pieces =>
        simp [splitLast, List.getLast?_eq_some_getLast, List.getLast_cons]
  rw [way, last]
  split
  · rename_i absolute
    have someTail : tail ≠ [] := by
      rintro rfl
      simp [Path.isAbsolute] at absolute
    rw [List.getLast_cons someTail, List.dropLast_concat_getLast]
  · rw [List.dropLast_append_of_ne_nil (by simp [Path.pieces]), Path.pieces,
      List.append_assoc, List.dropLast_concat_getLast]

/-- The path of an entry ends with its name. -/
theorem splitLast_child (base : Path) (name : Name) :
    (splitLast (base.child name)).2 = name := by
  by_cases isEmpty : base = Path.empty
  · subst isEmpty
    rw [Path.child_empty]
    rfl
  · obtain ⟨tail, child, -⟩ := Path.child_eq_of_ne_empty isEmpty name
    simp [child, splitLast]

/-- The way to the directory part of a path is the way to the path without the
last piece. -/
theorem locateParent_eq_follow
    (system : FileSystem)
    (path : Path) :
    system.locateParent path =
      follow system.root [] (system.way path).dropLast := by
  rw [locateParent, way]
  split
  · rfl
  · rw [List.dropLast_append_of_ne_nil (by simp [Path.pieces]), follow_append]
    rfl

/-- The ways to the paths of all entries of a directory go on by their names
after the same pieces. The way to the directory itself may end with a slash. -/
theorem exists_way_child (system : FileSystem) (base : Path) :
    ∃ before, (∀ piece, system.way (base.child piece) = before ++ [piece]) ∧
      (base ≠ Path.empty →
        system.way base = before ∨ system.way base = before ++ [.text ""]) := by
  by_cases isEmpty : base = Path.empty
  · subst isEmpty
    refine ⟨system.workingDirectory, ?_, absurd rfl⟩
    intro piece
    simp [way, Path.isAbsolute, Path.pieces]
  · obtain ⟨tail, split, children⟩ : ∃ tail,
        (base.tail = tail ∨ base.tail = tail ++ [.text ""]) ∧
        ∀ piece, base.child piece = ⟨base.head, tail ++ [piece]⟩ := by
      by_cases slash : base.endsWithSlash = true
      · have ends : base.tail.getLast? = some "" := by
          simpa [Path.endsWithSlash] using slash
        obtain ⟨before, isTail⟩ := List.getLast?_eq_some_iff.mp ends
        refine ⟨before, .inr isTail, ?_⟩
        intro piece
        simp [Path.child, Path.join, Path.isAbsolute, Path.pieces, isEmpty, slash,
          isTail]
      · refine ⟨base.tail, .inl rfl, ?_⟩
        intro piece
        simp [Path.child, Path.join, Path.isAbsolute, Path.pieces, isEmpty, slash]
    have absolute : ∀ piece, (Path.mk base.head (tail ++ [piece])).isAbsolute =
        base.isAbsolute := by
      intro piece
      rw [Path.isAbsolute_eq_of_ne_empty isEmpty,
        Path.isAbsolute_eq_of_ne_empty (by simp [Path.empty])]
    refine ⟨if base.isAbsolute then tail
      else system.workingDirectory ++ base.head :: tail, ?_, ?_⟩
    · intro piece
      rw [children, way, absolute]
      split <;> simp [Path.pieces]
    · intro _
      rw [way]
      split
      · exact split
      · rcases split with whole | whole <;> simp [Path.pieces, whole]

end FileSystem
end EnvTags
