import EnvTags.Proofs.Dependency.HighestVersion
import EnvTags.Proofs.EscapedPath
import Mathlib

/-!
# Reading escaped paths

In an escaped path an exclamation mark and a small letter stand for the capital, so
the path can be read again if it has no exclamation mark of its own. What can be
read are exactly the escaped forms of such paths. Since an escaped path has no
capital either, two paths stay different where capitals and small letters are taken
for the same. The main statement says this, and that the walk through a module cache
goes by the segments of the path, each of them escaped.
-/

namespace EnvTags

namespace Path

/-- The number of bytes in the pieces of a path. -/
def extent (path : Path) : Nat :=
  (path.pieces.map fun piece => piece.row.length).sum

/-- The name of an entry adds its bytes. -/
theorem extent_child (base : Path) (name : Name) :
    (base.child name).extent = base.extent + name.row.length := by
  by_cases isEmpty : base = empty
  · subst isEmpty
    rw [child_empty]
    simp [extent, pieces, empty, Name.row]
  · obtain ⟨tail, child, split⟩ := child_eq_of_ne_empty isEmpty name
    have sameSum : (base.tail.map fun piece => piece.row.length).sum =
        (tail.map fun piece => piece.row.length).sum := by
      rcases split with same | same <;> simp [same, Name.row]
    simp [child, extent, pieces, sameSum, Nat.add_assoc]

end Path

namespace ImportPath

/-! ## Reading back -/

/-- The text with a given escaped form. There is none if an exclamation mark stands
before anything but a small letter, or if there is a capital. -/
def unescapeChars? : List Char → Option (List Char)
  | [] => some []
  | c :: rest =>
      if c = '!' then
        match rest with
        | [] => none
        | d :: others =>
            if d.isLower then (unescapeChars? others).map (d.toUpper :: ·) else none
      else if c.isUpper then none
      else (unescapeChars? rest).map (c :: ·)

/-- The path with a given escaped form. -/
def unescape? (escaped : String) : Option String :=
  (unescapeChars? escaped.toList).map String.ofList

/-- A character that is escaped is read in front of any rest. -/
theorem unescapeChars?_escapeChar_append
    {c : Char}
    (notMark : c ≠ '!')
    (rest : List Char) :
    unescapeChars? (escapeChar c ++ rest) = (unescapeChars? rest).map (c :: ·) := by
  by_cases capital : c.isUpper = true
  · have small : c.toLower.isLower = true := isLower_toLower capital
    have back : c.toLower.toUpper = c := by
      rw [Char.toUpper_toLower_eq_toUpper]
      exact Char.toUpper_eq_of_not_isLower (Char.not_isLower_of_isUpper capital)
    simp [escapeChar, capital, unescapeChars?, small, back]
  · rw [escapeChar, if_neg capital, List.singleton_append, unescapeChars?.eq_def]
    simp [notMark, capital]

/-- A capital that is read has the mark and the small letter as its escaped form. -/
theorem escapeChar_toUpper
    {c : Char}
    (small : c.isLower = true) :
    escapeChar c.toUpper = ['!', c] := by
  have capital : c.toUpper.isUpper = true := by simp [Char.isAlpha, small]
  have back : c.toUpper.toLower = c := by
    rw [Char.toLower_toUpper_eq_toLower]
    exact Char.toLower_eq_of_not_isUpper (Char.not_isUpper_of_isLower small)
  rw [escapeChar, if_pos capital, back]

theorem unescapeChars?_eq_some_iff
    {escaped characters : List Char} :
    unescapeChars? escaped = some characters ↔
      '!' ∉ characters ∧ characters.flatMap escapeChar = escaped := by
  constructor
  · intro read
    fun_induction unescapeChars? escaped generalizing characters with
    | case1 =>
        obtain rfl : [] = characters := by simpa using read
        simp
    | case2 => cases read
    | case3 c rest small inductionHypothesis =>
        obtain ⟨others, isRest, rfl⟩ := Option.map_eq_some_iff.mp read
        obtain ⟨unmarked, same⟩ := inductionHypothesis isRest
        have notMark : '!' ≠ c.toUpper := by
          intro isMark
          have letter : c.toUpper.isUpper = true := by simp [Char.isAlpha, small]
          exact absurd (isMark ▸ letter) (by decide)
        exact ⟨by simp [unmarked, notMark], by simp [same, escapeChar_toUpper small]⟩
    | case4 => cases read
    | case5 => cases read
    | case6 c rest notMark notCapital inductionHypothesis =>
        obtain ⟨others, isRest, rfl⟩ := Option.map_eq_some_iff.mp read
        obtain ⟨unmarked, same⟩ := inductionHypothesis isRest
        exact ⟨by simp [unmarked, Ne.symm notMark],
          by simp [same, escapeChar, notCapital]⟩
  · rintro ⟨unmarked, rfl⟩
    induction characters with
    | nil => rfl
    | cons c characters inductionHypothesis =>
        obtain ⟨notMark, othersUnmarked⟩ := not_or.mp (List.mem_cons.not.mp unmarked)
        rw [List.flatMap_cons, unescapeChars?_escapeChar_append (Ne.symm notMark),
          inductionHypothesis othersUnmarked]
        rfl

/-- What can be read are the escaped forms of paths without exclamation marks. -/
theorem unescape?_eq_some_iff
    {escaped path : String} :
    unescape? escaped = some path ↔
      '!' ∉ path.toList ∧ escape path = escaped := by
  rw [unescape?, Option.map_eq_some_iff]
  constructor
  · rintro ⟨characters, read, rfl⟩
    obtain ⟨unmarked, same⟩ := unescapeChars?_eq_some_iff.mp read
    refine ⟨by simpa using unmarked, ?_⟩
    rw [escape, String.toList_ofList, same, String.ofList_toList]
  · rintro ⟨unmarked, rfl⟩
    refine ⟨path.toList, ?_, String.ofList_toList⟩
    rw [unescapeChars?_eq_some_iff, escape, String.toList_ofList]
    exact ⟨unmarked, rfl⟩

/-! ## Capitals -/

/-- An escaped path has no capital. -/
theorem isUpper_eq_false_of_mem_escape
    {path : String}
    {c : Char}
    (inside : c ∈ (escape path).toList) :
    c.isUpper = false := by
  simp only [escape, String.toList_ofList, List.mem_flatMap] at inside
  obtain ⟨original, -, isEscaped⟩ := inside
  unfold escapeChar at isEscaped
  split at isEscaped
  · rcases List.mem_cons.mp isEscaped with rfl | isSmall
    · decide
    · obtain rfl := List.mem_singleton.mp isSmall
      exact Char.isUpper_toLower_eq_false original
  · rename_i notCapital
    obtain rfl := List.mem_singleton.mp isEscaped
    exact Bool.eq_false_of_not_eq_true notCapital

/-- Two texts are the same if capitals are taken for the small letters. -/
def SameIgnoringCase (left right : String) : Prop :=
  left.toList.map Char.toLower = right.toList.map Char.toLower

theorem map_toLower_escape (path : String) :
    (escape path).toList.map Char.toLower = (escape path).toList := by
  have unchanged : ∀ c ∈ (escape path).toList, c.toLower = id c := fun c inside =>
    Char.toLower_eq_of_not_isUpper (by simp [isUpper_eq_false_of_mem_escape inside])
  rw [List.map_congr_left unchanged, List.map_id]

/-- Paths without exclamation marks whose escaped forms are the same, with capitals
taken for small letters, are the same. -/
theorem eq_of_sameIgnoringCase_escape
    {left right : String}
    (leftUnmarked : '!' ∉ left.toList)
    (rightUnmarked : '!' ∉ right.toList)
    (same : SameIgnoringCase (escape left) (escape right)) :
    left = right := by
  rw [SameIgnoringCase, map_toLower_escape, map_toLower_escape] at same
  have readLeft : unescape? (escape left) = some left :=
    unescape?_eq_some_iff.mpr ⟨leftUnmarked, rfl⟩
  have readRight : unescape? (escape right) = some right :=
    unescape?_eq_some_iff.mpr ⟨rightUnmarked, rfl⟩
  rw [String.toList_injective same, readRight] at readLeft
  exact (Option.some.inj readLeft).symm

/-! ## Segments -/

theorem escape_eq_empty_iff {path : String} : escape path = "" ↔ path = "" := by
  constructor
  · intro isEmpty
    have unmarked : '!' ∉ (escape path).toList := by simp [isEmpty]
    rw [← escape_eq_self_of_notMem unmarked, isEmpty]
  · rintro rfl
    rfl

end ImportPath

namespace Dependency

/-- The segments of an escaped path are the escaped segments of the path. -/
theorem segments_escape_eq_map (path : String) :
    segments (ImportPath.escape path) = (segments path).map ImportPath.escape := by
  have sameTest : ((fun segment => segment != "") ∘ ImportPath.escape) =
      fun segment => segment != "" := by
    funext segment
    rw [Function.comp_apply, Bool.eq_iff_iff, bne_iff_ne, bne_iff_ne]
    exact not_congr ImportPath.escape_eq_empty_iff
  rw [segments, segments, ImportPath.parts_escape, ImportPath.escapedParts,
    List.filter_map, sameTest]

theorem ne_empty_of_mem_segments
    {path segment : String}
    (isSegment : segment ∈ segments path) :
    segment ≠ "" := by
  simpa using (List.mem_filter.mp isSegment).2

/-! ## The walk -/

section Walk

variable {system : FileSystem} {directory : Path}

/-- The step for a segment goes to a path with one more name. -/
theorem exists_child_of_segmentDirectory
    {segment : String}
    (nonempty : segment ≠ "")
    {next : Path}
    (isNext : segmentDirectory system directory segment = .ok (some next)) :
    ∃ name : Name, name ≠ "" ∧ next = directory.child name := by
  unfold segmentDirectory at isNext
  split at isNext
  · obtain rfl : directory.child segment = next := by simpa using isNext
    exact ⟨segment, by simpa using nonempty, rfl⟩
  · unfold versionedDirectory at isNext
    cases read : system.readDirectory directory with
    | error failure => simp [read] at isNext
    | ok entries =>
        simp only [read, Except.ok.injEq, Option.map_eq_some_iff] at isNext
        obtain ⟨name, isHighest, rfl⟩ := isNext
        obtain ⟨version, -, isFirst⟩ := highestVersion?_eq_some_iff.mp isHighest
        obtain ⟨inner, -, isVersioned⟩ := Entry.mem_of_firstRead? isFirst
        exact ⟨name, (stepsToEntry_versioned isVersioned).ne_empty, rfl⟩

/-- A walk never goes back. -/
theorem extent_le_of_deepestDirectory
    {segments : List String}
    (nonempty : ∀ segment ∈ segments, segment ≠ "")
    {reached : Path}
    (isDeepest : deepestDirectory system directory segments = .ok reached) :
    directory.extent ≤ reached.extent := by
  induction segments generalizing directory with
  | nil => exact Nat.le_of_eq (congrArg Path.extent (Except.ok.inj isDeepest))
  | cons segment segments inductionHypothesis =>
      obtain ⟨segmentNonempty, othersNonempty⟩ := List.forall_mem_cons.mp nonempty
      rw [deepestDirectory] at isDeepest
      rcases isNext : segmentDirectory system directory segment with
        error | _ | next
      · simp [isNext] at isDeepest
      · simp only [isNext, Except.ok.injEq] at isDeepest
        exact Nat.le_of_eq (congrArg Path.extent isDeepest)
      · simp only [isNext] at isDeepest
        obtain ⟨name, -, rfl⟩ :=
          exists_child_of_segmentDirectory segmentNonempty isNext
        have later := inductionHypothesis othersNonempty isDeepest
        rw [Path.extent_child] at later
        exact Nat.le_of_add_right_le later

/-- In a module cache, the directory is located at which the walk by the escaped
segments of the path ends, unless the walk never leaves the cache. -/
theorem locateInCache_eq_deepestDirectory
    (system : FileSystem)
    (cache : Path)
    (importPath : String) :
    locateInCache system cache importPath =
      (deepestDirectory system cache
          ((segments importPath).map ImportPath.escape)).map
        fun reached => if reached = cache then none else some reached := by
  have nonempty : ∀ segment ∈ segments (ImportPath.escape importPath),
      segment ≠ "" := fun _ => ne_empty_of_mem_segments
  rw [locateInCache, ← segments_escape_eq_map]
  generalize segments (ImportPath.escape importPath) = segments at nonempty
  cases segments with
  | nil => simp [deepestDirectory, Except.map]
  | cons segment segments =>
      obtain ⟨segmentNonempty, othersNonempty⟩ := List.forall_mem_cons.mp nonempty
      rw [deepestDirectory]
      rcases isNext : segmentDirectory system cache segment with error | _ | next
      · simp [isNext, Except.map]
      · simp [isNext, Except.map]
      · rcases isDeepest : deepestDirectory system next segments with error | reached
        · simp [isNext, isDeepest, Except.map]
        · -- The first step has left the cache, and no later one comes back to it.
          have left : reached ≠ cache := by
            rintro rfl
            obtain ⟨name, nameNonempty, rfl⟩ :=
              exists_child_of_segmentDirectory segmentNonempty isNext
            have further := extent_le_of_deepestDirectory othersNonempty isDeepest
            rw [Path.extent_child] at further
            have isEmpty : name.row.length = 0 := by omega
            exact nameNonempty
              (Name.row_injective (List.eq_nil_of_length_eq_zero isEmpty))
          simp [isNext, isDeepest, Except.map, left]

end Walk

/-- An escaped path without exclamation marks is read back as it was, and it is the
escaped form of no other such path, even if capitals are taken for small letters. It
has no capital. What it has between its slashes is escaped part by part, so the walk
through a module cache goes by the escaped segments of the path. -/
theorem escape_reversible (path : String) :
    ('!' ∉ path.toList →
      ImportPath.unescape? (ImportPath.escape path) = some path ∧
        ∀ other : String, '!' ∉ other.toList → other ≠ path →
          ¬ImportPath.SameIgnoringCase (ImportPath.escape other)
            (ImportPath.escape path)) ∧
    (∀ c ∈ (ImportPath.escape path).toList, c.isUpper = false) ∧
    Text.parts '/' (ImportPath.escape path) =
      (Text.parts '/' path).map ImportPath.escape ∧
    ∀ (system : FileSystem) (cache : Path),
      locateInCache system cache path =
        (deepestDirectory system cache
            ((segments path).map ImportPath.escape)).map
          fun reached => if reached = cache then none else some reached := by
  refine ⟨fun unmarked => ⟨?_, ?_⟩,
    fun _ => ImportPath.isUpper_eq_false_of_mem_escape, ImportPath.parts_escape path,
    fun system cache => locateInCache_eq_deepestDirectory system cache path⟩
  · exact ImportPath.unescape?_eq_some_iff.mpr ⟨unmarked, rfl⟩
  · intro other otherUnmarked different same
    exact different
      (ImportPath.eq_of_sameIgnoringCase_escape otherUnmarked unmarked same)

/-- Two paths that differ in capitals only have escaped forms that differ. -/
example :
    ImportPath.escape "github.com/BurntSushi/toml" =
        "github.com/!burnt!sushi/toml" ∧
      ImportPath.escape "github.com/burntsushi/toml" =
        "github.com/burntsushi/toml" := by
  decide

end Dependency
end EnvTags
