import EnvTags.Proofs.FileSystem.Order

/-!
# Views of a file system

A view of a tree has every directory in the order of names and shows less of the
contents, or all of them. The same paths lead to the same places of a tree and of
its view. So a tree and its view differ only in the order of listings and in
texts.
-/

namespace EnvTags
namespace Entry

/-! ## Induction over a tree -/

mutual

/-- What passes from the entries of a directory to the directory holds of every
tree. -/
@[elab_as_elim]
theorem inductionOn
    {holds : Entry → Prop}
    (entry : Entry)
    (ofFile : ∀ content, holds (file content))
    (ofDirectory : ∀ entries, (∀ child ∈ entries, holds child.2) →
      holds (directory entries)) :
    holds entry := by
  match entry with
  | file content => exact ofFile content
  | directory entries =>
      exact ofDirectory entries (inductionOnEach entries ofFile ofDirectory)

theorem inductionOnEach
    {holds : Entry → Prop}
    (entries : List (Name × Entry))
    (ofFile : ∀ content, holds (file content))
    (ofDirectory : ∀ entries, (∀ child ∈ entries, holds child.2) →
      holds (directory entries)) :
    ∀ child ∈ entries, holds child.2 := by
  match entries with
  | [] => simp
  | (name, entry) :: entries =>
      intro child present
      rcases List.mem_cons.mp present with rfl | later
      · exact inductionOn entry ofFile ofDirectory
      · exact inductionOnEach entries ofFile ofDirectory child later

end

/-! ## Trees -/

mutual

/-- A tree with the entries of every directory in the order of their names, and
with a view of every content. -/
def seen (view : Content → Content) : Entry → Entry
  | file content => file (view content)
  | directory entries => directory (sortByName (seenEach view entries))

/-- Named entries with a view of each of them. -/
def seenEach (view : Content → Content) :
    List (Name × Entry) → List (Name × Entry)
  | [] => []
  | (name, entry) :: entries => (name, seen view entry) :: seenEach view entries

end

variable (view : Content → Content)

theorem seenEach_eq_map (entries : List (Name × Entry)) :
    seenEach view entries = entries.map (Prod.map id (seen view)) := by
  induction entries with
  | nil => rfl
  | cons entry entries inductionHypothesis =>
      rw [seenEach, inductionHypothesis]
      rfl

/-- The entries in a view are the views of the entries, in order. -/
theorem seen_directory (entries : List (Name × Entry)) :
    seen view (directory entries) =
      directory ((sortByName entries).map (Prod.map id (seen view))) := by
  rw [seen, seenEach_eq_map, sortByName_map]

mutual

/-- A sorted tree is the view of a tree with all contents. -/
theorem sorted_eq_seen (entry : Entry) : sorted entry = seen id entry := by
  match entry with
  | file content => rfl
  | directory entries => rw [sorted, seen, sortedEach_eq_seenEach entries]

theorem sortedEach_eq_seenEach (entries : List (Name × Entry)) :
    sortedEach entries = seenEach id entries := by
  match entries with
  | [] => rfl
  | (name, entry) :: entries =>
      rw [sortedEach, seenEach, sorted_eq_seen entry,
        sortedEach_eq_seenEach entries]

end

@[simp] theorem isDirectory_seen (entry : Entry) :
    (seen view entry).isDirectory = entry.isDirectory := by
  cases entry <;> rfl

end Entry

namespace FileSystem

/-- A view of a file system. -/
def seen (view : Content → Content) (system : FileSystem) : FileSystem :=
  { system with root := system.root.seen view }

/-- A view of a trail. -/
def Trail.seen (view : Content → Content) (trail : Trail) : Trail :=
  trail.map (Prod.map id (Entry.seen view))

/-! ## Paths -/

variable (view : Content → Content)

theorem entryAt_seen (root : Entry) (trail : Trail) :
    entryAt (root.seen view) (trail.seen view) =
      (entryAt root trail).seen view := by
  cases trail <;> rfl

theorem enter_seen (root : Entry) (trail : Trail) (piece : Name) :
    enter (root.seen view) (trail.seen view) piece =
      (enter root trail piece).map (Trail.seen view) := by
  unfold enter
  rw [entryAt_seen]
  cases entryAt root trail with
  | file content => rfl
  | directory entries =>
      have lookup : ((Entry.sortByName entries).map
            (Prod.map id (Entry.seen view))).lookup piece =
          (entries.lookup piece).map (Entry.seen view) := by
        rw [Entry.lookup_map, Entry.lookup_sortByName]
      simp only [Entry.seen_directory, lookup]
      split
      · rfl
      · split
        · simp [Except.map, Trail.seen]
        · cases entries.lookup piece <;> rfl

/-- A path is followed in a view as it is in the tree. -/
theorem follow_seen (root : Entry) (trail : Trail) (pieces : List Name) :
    follow (root.seen view) (trail.seen view) pieces =
      (follow root trail pieces).map (Trail.seen view) := by
  induction pieces generalizing trail with
  | nil => rfl
  | cons piece pieces inductionHypothesis =>
      rw [follow, follow, enter_seen]
      cases enter root trail piece with
      | error failure => rfl
      | ok next => exact inductionHypothesis next

theorem locate_seen (system : FileSystem) (path : Path) :
    (system.seen view).locate path =
      (system.locate path).map (Trail.seen view) := by
  have followed := follow_seen view system.root []
  unfold locate
  split
  · rfl
  · split
    · exact followed path.tail
    · unfold followRelative
      simp only [seen]
      rw [show follow (system.root.seen view) [] system.workingDirectory = _ from
        followed system.workingDirectory]
      cases follow system.root [] system.workingDirectory with
      | error failure => rfl
      | ok trail => exact follow_seen view system.root trail path.pieces

/-- A path leads to the view of what it leads to in the tree. -/
theorem entry_seen (system : FileSystem) (path : Path) :
    (system.seen view).entry path =
      (system.entry path).map (Entry.seen view) := by
  rw [entry, entry, locate_seen]
  cases system.locate path with
  | error failure => rfl
  | ok trail => exact congrArg Except.ok (entryAt_seen view system.root trail)

/-- A view has the same directories. -/
theorem isDirectory_seen (system : FileSystem) (path : Path) :
    (system.seen view).isDirectory path = system.isDirectory path := by
  rw [isDirectory, isDirectory, entry_seen]
  cases system.entry path with
  | error failure => rfl
  | ok entry => exact Entry.isDirectory_seen view entry

/-- File systems with the same view have the same directories. -/
theorem isDirectory_congr
    {view : Content → Content}
    {system other : FileSystem}
    (sameView : other.seen view = system.seen view)
    (path : Path) :
    other.isDirectory path = system.isDirectory path := by
  rw [← isDirectory_seen view, sameView, isDirectory_seen]

/-- A directory of a view lists the views of the entries, in order. -/
theorem readDirectory_seen (system : FileSystem) (path : Path) :
    (system.seen view).readDirectory path =
      (system.readDirectory path).map fun entries =>
        (Entry.sortByName entries).map (Prod.map id (Entry.seen view)) := by
  rw [readDirectory, readDirectory, entry_seen]
  rcases system.entry path with failure | content | entries
  · rfl
  · rfl
  · simp [Except.map, Entry.seen_directory]

/-- A view of all contents has the same texts. -/
theorem readText_seen_id (system : FileSystem) (path : Path) :
    (system.seen id).readText path = system.readText path := by
  rw [readText, readText, entry_seen]
  rcases system.entry path with failure | content | entries <;> rfl

end FileSystem
end EnvTags
