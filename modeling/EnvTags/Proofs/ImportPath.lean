import EnvTags.Dependency.Resolver
import EnvTags.Proofs.Name
import EnvTags.Proofs.Path
import EnvTags.Proofs.Text.Split
import Mathlib.Data.List.TakeWhile

/-!
# Import paths of directories

The import path of a directory of a module is the path of the module and the
names that lead to the directory, each after a slash. Since no name has a slash
in it, the names can be read off the path again, as far as they are texts. That is
how the packages of the module are located.
-/

namespace EnvTags

namespace ImportPath

/-- What is taken from the end of a path are slashes. -/
theorem exists_slashes (path : String) :
    ∃ slashes, path.toList = (withoutTrailingSlashes path).toList ++ slashes ∧
      ∀ c ∈ slashes, c = '/' := by
  refine ⟨(path.toList.reverse.takeWhile (· == '/')).reverse, ?_, ?_⟩
  · rw [withoutTrailingSlashes, String.toList_ofList, ← List.reverse_append,
      List.takeWhile_append_dropWhile, List.reverse_reverse]
  · intro c inside
    have slash := List.mem_takeWhile_imp (List.mem_reverse.mp inside)
    simpa using slash

/-- A path without a slash at its end has none to be taken away. -/
theorem withoutTrailingSlashes_eq_self
    {path : String}
    (unslashed : path.toList.getLast? ≠ some '/') :
    withoutTrailingSlashes path = path := by
  have kept : path.toList.reverse.dropWhile (· == '/') = path.toList.reverse := by
    cases reversed : path.toList.reverse with
    | nil => rfl
    | cons last others =>
        rw [← List.head?_reverse, reversed, List.head?_cons] at unslashed
        rw [List.dropWhile_cons_of_neg (by simpa using unslashed)]
  rw [withoutTrailingSlashes, kept, List.reverse_reverse, String.ofList_toList]

/-- Each name follows a slash. -/
theorem toList_join (modulePath : String) (names : List Name) :
    (join modulePath names).toList =
      (withoutTrailingSlashes modulePath).toList ++
        names.flatMap fun name => '/' :: name.read.toList := by
  unfold join
  generalize withoutTrailingSlashes modulePath = start
  induction names generalizing start with
  | nil => simp
  | cons name names inductionHypothesis =>
      rw [List.foldl_cons, inductionHypothesis]
      simp

theorem cons_toList_joined_read
    {names : List Name}
    (nonempty : names ≠ []) :
    '/' :: (Text.joined '/' (names.map Name.read)).toList =
      names.flatMap fun name => '/' :: name.read.toList := by
  rw [Text.cons_toList_joined '/' (by simpa using nonempty), List.flatMap_map]

/-- The names that lead to a directory follow the module path and a slash. -/
theorem join_eq_append
    {modulePath : String}
    (unslashed : modulePath.toList.getLast? ≠ some '/')
    {names : List Name}
    (nonempty : names ≠ []) :
    join modulePath names =
      modulePath ++ "/" ++ Text.joined '/' (names.map Name.read) := by
  apply String.toList_injective
  rw [toList_join, withoutTrailingSlashes_eq_self unslashed,
    ← cons_toList_joined_read nonempty]
  simp

/-- Directories of a module have one import path exactly if they are led to by rows
of names that are read alike. -/
theorem join_eq_join_iff
    {modulePath : String}
    {left right : List Name}
    (leftNames : ∀ name ∈ left, Path.IsEntryName name)
    (rightNames : ∀ name ∈ right, Path.IsEntryName name) :
    join modulePath left = join modulePath right ↔
      left.map Name.read = right.map Name.read := by
  have unslashed : ∀ {names : List Name}, (∀ name ∈ names, Path.IsEntryName name) →
      ∀ string ∈ names.map Name.read, '/' ∉ string.toList := by
    intro names areNames
    exact List.forall_mem_map.mpr fun name inside => (areNames name inside).2
  constructor
  · intro same
    have slashed : (left.flatMap fun name => '/' :: name.read.toList) =
        right.flatMap fun name => '/' :: name.read.toList := by
      have sameList := congrArg String.toList same
      rw [toList_join, toList_join] at sameList
      exact List.append_cancel_left sameList
    by_cases leftEmpty : left = []
    · subst leftEmpty
      cases right with
      | nil => rfl
      | cons name names => simp at slashed
    · by_cases rightEmpty : right = []
      · subst rightEmpty
        obtain ⟨name, names, rfl⟩ := List.exists_cons_of_ne_nil leftEmpty
        simp at slashed
      · rw [← cons_toList_joined_read leftEmpty,
          ← cons_toList_joined_read rightEmpty] at slashed
        have sameJoined : Text.joined '/' (left.map Name.read) =
            Text.joined '/' (right.map Name.read) :=
          String.toList_injective (List.cons.inj slashed).2
        rw [← Text.parts_joined (by simpa using leftEmpty) (unslashed leftNames),
          ← Text.parts_joined (by simpa using rightEmpty) (unslashed rightNames),
          sameJoined]
  · intro same
    have joinReads : ∀ names, join modulePath names =
        (names.map Name.read).foldl (fun path name => path ++ "/" ++ name)
          (withoutTrailingSlashes modulePath) := by
      intro names
      rw [join, List.foldl_map]
    rw [joinReads, joinReads, same]

/-- A directory has the module path itself as its import path exactly if it is
the root of the module and the module path has no slash at its end. -/
theorem join_eq_modulePath_iff
    {modulePath : String}
    {names : List Name}
    (areNames : ∀ name ∈ names, Path.IsEntryName name) :
    join modulePath names = modulePath ↔
      names = [] ∧ withoutTrailingSlashes modulePath = modulePath := by
  constructor
  · intro same
    obtain ⟨slashes, whole, allSlashes⟩ := exists_slashes modulePath
    have sameList := congrArg String.toList same
    rw [toList_join, whole] at sameList
    have areSlashes := List.append_cancel_left sameList
    cases names with
    | nil => exact ⟨rfl, same⟩
    | cons name names =>
        -- The characters of the first name would all be slashes.
        obtain ⟨steps, unslashed⟩ := areNames name List.mem_cons_self
        obtain ⟨c, inName⟩ := List.exists_mem_of_ne_nil name.read.toList
          (by simpa using Name.read_ne_empty steps.ne_empty)
        have isSlash := allSlashes c (by simp [← areSlashes, inName])
        exact absurd (isSlash ▸ inName) unslashed
  · rintro ⟨rfl, same⟩
    exact same

end ImportPath

namespace Dependency

/-- The segments of joined names are the names as they are read. -/
theorem segments_joined
    {names : List Name}
    (nonempty : names ≠ [])
    (areNames : ∀ name ∈ names, Path.IsEntryName name) :
    segments (Text.joined '/' (names.map Name.read)) = names.map Name.read := by
  have unslashed : ∀ string ∈ names.map Name.read, '/' ∉ string.toList :=
    List.forall_mem_map.mpr fun name inside => (areNames name inside).2
  rw [segments, Text.parts_joined (by simpa using nonempty) unslashed,
    List.filter_eq_self, List.forall_mem_map]
  intro name inside
  simpa using Name.read_ne_empty (areNames name inside).1.ne_empty

namespace Resolver

/-- The module path has no part below itself. -/
theorem projectPart?_modulePath (resolver : Resolver) :
    resolver.projectPart? resolver.modulePath = none := by
  rw [projectPart?, Option.map_eq_none_iff, Option.eq_none_iff_forall_ne_some]
  intro rest isRest
  have longer := congrArg List.length (Text.after?_eq_some_iff.mp isRest)
  simp at longer

/-- The names that lead to a directory of the module are read as the segments that
its path has below the module path. -/
theorem segments_of_projectPart?_join
    {resolver : Resolver}
    {names : List Name}
    (areNames : ∀ name ∈ names, Path.IsEntryName name)
    {rest : String}
    (isPart : resolver.projectPart?
      (ImportPath.join resolver.modulePath names) = some rest) :
    segments rest = names.map Name.read := by
  obtain ⟨restList, after, rfl⟩ := Option.map_eq_some_iff.mp isPart
  have split := Text.after?_eq_some_iff.mp after
  obtain ⟨slashes, whole, allSlashes⟩ :=
    ImportPath.exists_slashes resolver.modulePath
  rw [ImportPath.toList_join, String.toList_append, whole, List.append_assoc,
    List.append_assoc] at split
  have below := List.append_cancel_left split
  cases names with
  | nil => simp at below
  | cons name others =>
      -- A module path that ends with slashes would put one at the start of the
      -- first name.
      cases slashes with
      | cons slash slashes =>
          obtain ⟨steps, unslashed⟩ := areNames name List.mem_cons_self
          have starts :
              (slashes ++ ("/".toList ++ restList)).head? = some '/' := by
            cases slashes with
            | nil => rfl
            | cons second slashes => simp [allSlashes second (by simp)]
          rw [List.flatMap_cons, List.cons_append, List.cons_append,
            List.cons.injEq] at below
          rw [← below.2, List.head?_append, Option.or_eq_some_iff] at starts
          rcases starts with first | ⟨isEmpty, -⟩
          · exact absurd (List.mem_of_head? first) unslashed
          · exact absurd (by simpa using isEmpty)
              (Name.read_ne_empty steps.ne_empty)
      | nil =>
          have nonempty : name :: others ≠ [] := by simp
          rw [← ImportPath.cons_toList_joined_read nonempty] at below
          have isRest : (Text.joined '/' ((name :: others).map Name.read)).toList =
              restList := by
            simpa using below
          rw [← isRest, String.ofList_toList, segments_joined nonempty areNames]

end Resolver
end Dependency
end EnvTags
