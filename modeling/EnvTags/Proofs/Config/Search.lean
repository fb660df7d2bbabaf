import EnvTags.Config.Load
import EnvTags.Proofs.Path.Ascent

/-!
# The nearest configuration file

The search for a configuration goes up from a directory, as far as neither a
configuration file nor the entry that ends it is there. So it finds the nearest file in
sight, and the configuration is the one in that file or the default one. A file without
a valid configuration is never passed over: it makes the loading fail.
-/

namespace EnvTags
namespace Config

/-! ## The search -/

section Search

variable {system : FileSystem} {start file : Path}

/-- The search in a directory goes on in its parent. -/
theorem findFile?_eq (system : FileSystem) (directory : Path) :
    findFile? system directory =
      if system.contains (directory.child fileName) then
        some (directory.child fileName)
      else if system.contains (directory.child boundaryName) then none
      else directory.parent?.bind (findFile? system) := by
  rw [findFile?, Path.ancestors]
  split
  · rename_i noParent
    rw [noParent]
    rfl
  · rename_i parent isParent
    rw [isParent]
    rfl

/-- The search goes on from a directory to its parent: neither a configuration file
nor the entry at which the search ends is there. -/
structure LeadsOn (system : FileSystem) (directory : Path) : Prop where
  noFile : system.contains (directory.child fileName) = false
  noBoundary : system.contains (directory.child boundaryName) = false

/-- A file is the nearest configuration file on the way up from a directory, and the
search leads on as far as there. It does not matter whether the search would end where
the file is. -/
def IsNearest (system : FileSystem) (start file : Path) : Prop :=
  ∃ (steps : Nat) (directory : Path), start.ascend? steps = some directory ∧
    file = directory.child fileName ∧ system.contains file = true ∧
    ∀ fewer < steps, ∀ nearer ∈ start.ascend? fewer, LeadsOn system nearer

/-- A file is found in the directory itself, or the search leads on and finds it from
the parent. -/
theorem findFile?_eq_some_iff_here_or_above :
    findFile? system start = some file ↔
      (file = start.child fileName ∧ system.contains file = true) ∨
      (LeadsOn system start ∧
        ∃ parent ∈ start.parent?, findFile? system parent = some file) := by
  rw [findFile?_eq]
  by_cases contained : system.contains (start.child fileName) = true
  · have endsHere : ¬LeadsOn system start := fun leadsOn =>
      Bool.eq_false_iff.mp leadsOn.noFile contained
    rw [if_pos contained]
    constructor
    · rintro ⟨⟩
      exact .inl ⟨rfl, contained⟩
    · rintro (⟨rfl, -⟩ | ⟨leadsOn, -⟩)
      · rfl
      · exact absurd leadsOn endsHere
  · have notHere : ¬(file = start.child fileName ∧ system.contains file = true) := by
      rintro ⟨rfl, here⟩
      exact contained here
    rw [if_neg contained, or_iff_right notHere]
    by_cases boundary : system.contains (start.child boundaryName) = true
    · have endsHere : ¬LeadsOn system start := fun leadsOn =>
        Bool.eq_false_iff.mp leadsOn.noBoundary boundary
      simp [boundary, endsHere]
    · have leadsOn : LeadsOn system start :=
        ⟨Bool.eq_false_iff.mpr contained, Bool.eq_false_iff.mpr boundary⟩
      rw [if_neg boundary, Option.bind_eq_some_iff, and_iff_right leadsOn]
      rfl

/-- The nearest file is in the directory itself, or the search leads on and it is the
nearest one from the parent. -/
theorem isNearest_iff_here_or_above :
    IsNearest system start file ↔
      (file = start.child fileName ∧ system.contains file = true) ∨
      (LeadsOn system start ∧
        ∃ parent ∈ start.parent?, IsNearest system parent file) := by
  constructor
  · rintro ⟨steps, directory, reached, isFile, contained, leadsOn⟩
    cases steps with
    | zero =>
        obtain rfl := Option.some.inj reached
        exact .inl ⟨isFile, contained⟩
    | succ steps =>
        rw [Path.ascend?_succ] at reached
        obtain ⟨parent, isParent, parentReached⟩ := Option.bind_eq_some_iff.mp reached
        refine .inr ⟨leadsOn 0 steps.succ_pos start rfl, parent, isParent, steps,
          directory, parentReached, isFile, contained, ?_⟩
        intro fewer isLess nearer isNearer
        apply leadsOn (fewer + 1) (Nat.succ_lt_succ isLess)
        rw [Path.ascend?_succ, Option.mem_def.mp isParent]
        exact isNearer
  · rintro (⟨isFile, contained⟩ | ⟨leadsOn, parent, isParent, steps, directory,
      reached, isFile, contained, restLeadsOn⟩)
    · exact ⟨0, start, rfl, isFile, contained, fun _ isLess => absurd isLess
        (Nat.not_lt_zero _)⟩
    · refine ⟨steps + 1, directory, ?_, isFile, contained, ?_⟩
      · rw [Path.ascend?_succ, Option.mem_def.mp isParent]
        exact reached
      · intro fewer isLess nearer isNearer
        cases fewer with
        | zero =>
            obtain rfl := Option.some.inj isNearer
            exact leadsOn
        | succ fewer =>
            rw [Path.ascend?_succ, Option.mem_def.mp isParent] at isNearer
            exact restLeadsOn fewer (Nat.lt_of_succ_lt_succ isLess) nearer isNearer

/-- The search finds the nearest file. -/
theorem findFile?_eq_some_iff :
    findFile? system start = some file ↔ IsNearest system start file := by
  induction start using Path.ancestors.induct with
  | case1 start noParent =>
      rw [findFile?_eq_some_iff_here_or_above, isNearest_iff_here_or_above]
      simp [noParent]
  | case2 start parent isParent inductionHypothesis =>
      rw [findFile?_eq_some_iff_here_or_above, isNearest_iff_here_or_above]
      simp [isParent, inductionHypothesis]

theorem findFile?_eq_none_iff :
    findFile? system start = none ↔ ∀ file, ¬IsNearest system start file := by
  simp only [Option.eq_none_iff_forall_ne_some, ne_eq, findFile?_eq_some_iff]

end Search

/-! ## The configuration in a file -/

section Read

variable {system : FileSystem} {file : Path}

/-- A file holds a valid configuration. -/
def Holds (system : FileSystem) (file : Path) (config : Config) : Prop :=
  ∃ text, system.readText file = .ok text ∧ parse? text = some config ∧
    config.problem? = none

/-- A file holds no valid configuration, for a reason. -/
inductive Fails (system : FileSystem) (file : Path) : LoadError → Prop
  /-- The file cannot be read. -/
  | unreadable
      {failure : FileSystem.Failure}
      (unread : system.readText file = .error failure) :
      Fails system file (.unreadable file failure)
  /-- The text of the file does not write a configuration. -/
  | malformed
      {text : String}
      (isText : system.readText file = .ok text)
      (unparsed : parse? text = none) :
      Fails system file (.malformed file)
  /-- The configuration in the file has a problem. -/
  | invalid
      {text : String}
      {config : Config}
      {problem : Problem}
      (isText : system.readText file = .ok text)
      (parsed : parse? text = some config)
      (isProblem : config.problem? = some problem) :
      Fails system file (.invalid problem)

theorem readFile_eq_ok_iff {config : Config} :
    readFile system file = .ok config ↔ Holds system file config := by
  constructor
  · intro read
    unfold readFile at read
    split at read
    · cases read
    · rename_i text isText
      split at read
      · cases read
      · rename_i parsed isParsed
        split at read
        · cases read
        · rename_i valid
          obtain rfl := Except.ok.inj read
          exact ⟨text, isText, isParsed, valid⟩
  · rintro ⟨text, isText, parsed, valid⟩
    simp only [readFile, isText, parsed, valid]

theorem readFile_eq_error_iff {error : LoadError} :
    readFile system file = .error error ↔ Fails system file error := by
  constructor
  · intro read
    unfold readFile at read
    split at read
    · rename_i failure unread
      obtain rfl := Except.error.inj read
      exact .unreadable unread
    · rename_i text isText
      split at read
      · rename_i unparsed
        obtain rfl := Except.error.inj read
        exact .malformed isText unparsed
      · rename_i config parsed
        split at read
        · rename_i problem isProblem
          obtain rfl := Except.error.inj read
          exact .invalid isText parsed isProblem
        · cases read
  · intro fails
    cases fails with
    | unreadable unread => simp only [readFile, unread]
    | malformed isText unparsed => simp only [readFile, isText, unparsed]
    | invalid isText parsed isProblem =>
        simp only [readFile, isText, parsed, isProblem]

end Read

/-! ## The configuration for a directory -/

section Load

variable {system : FileSystem} {start : Path}

theorem load_of_findFile?_eq_none (noFile : findFile? system start = none) :
    load system start = .ok ⟨{}, false⟩ := by
  simp only [load, noFile]

theorem load_of_findFile?_eq_some
    {file : Path}
    (found : findFile? system start = some file) :
    load system start = (readFile system file).map fun config => ⟨config, true⟩ := by
  simp only [load, found]
  cases readFile system file <;> rfl

theorem load_eq_default_iff {config : Config} :
    load system start = .ok ⟨config, false⟩ ↔
      findFile? system start = none ∧ config = {} := by
  cases found : findFile? system start with
  | none => simp [load_of_findFile?_eq_none found, eq_comm]
  | some file =>
      rw [load_of_findFile?_eq_some found]
      cases readFile system file <;> simp [Except.map]

theorem load_eq_fromFile_iff {config : Config} :
    load system start = .ok ⟨config, true⟩ ↔
      ∃ file, findFile? system start = some file ∧
        readFile system file = .ok config := by
  cases found : findFile? system start with
  | none => simp [load_of_findFile?_eq_none found]
  | some file =>
      rw [load_of_findFile?_eq_some found]
      cases read : readFile system file <;> simp [Except.map, read]

theorem load_eq_error_iff {error : LoadError} :
    load system start = .error error ↔
      ∃ file, findFile? system start = some file ∧
        readFile system file = .error error := by
  cases found : findFile? system start with
  | none => simp [load_of_findFile?_eq_none found]
  | some file =>
      rw [load_of_findFile?_eq_some found]
      cases read : readFile system file <;> simp [Except.map, read]

end Load

/-- The way up from a directory drops one component after the other until none but the
root is left. On it the search finds the nearest configuration file, or nothing. The
defaults hold exactly when there is no such file. Otherwise the configuration is the one
in that file, and if there is none in it, loading fails. -/
theorem load_uses_nearest (system : FileSystem) (start : Path) :
    (∀ steps, (start.ascend? steps).isSome = true ↔ steps ≤ start.depth) ∧
      (∀ steps directory, start.ascend? steps = some directory →
        Path.IsAbove steps start directory) ∧
      (∀ file, findFile? system start = some file ↔ IsNearest system start file) ∧
      (findFile? system start = none ↔ ∀ file, ¬IsNearest system start file) ∧
      (∀ config, load system start = .ok ⟨config, false⟩ ↔
        findFile? system start = none ∧ config = {}) ∧
      (∀ config, load system start = .ok ⟨config, true⟩ ↔
        ∃ file, IsNearest system start file ∧ Holds system file config) ∧
      (∀ error, load system start = .error error ↔
        ∃ file, IsNearest system start file ∧ Fails system file error) := by
  refine ⟨fun _ => Path.isSome_ascend?_iff, fun _ _ => Path.isAbove_of_ascend?,
    fun _ => findFile?_eq_some_iff, findFile?_eq_none_iff,
    fun _ => load_eq_default_iff, ?_, ?_⟩
  · intro config
    simp only [load_eq_fromFile_iff, findFile?_eq_some_iff, readFile_eq_ok_iff]
  · intro error
    simp only [load_eq_error_iff, findFile?_eq_some_iff, readFile_eq_error_iff]

/-- A configuration file hides the ones above it, also where the search would end. -/
example :
    let repository : Entry := .directory [
      (boundaryName, .directory []),
      (fileName, .file (.text "[]")),
      ("cmd", .directory [])]
    let system : FileSystem := ⟨.directory [
      (fileName, .file (.text "[]")), ("app", repository)], []⟩
    findFile? system (Path.ofString "app/./cmd/") =
      some (Path.ofString "app/.goprintenv.json") := by
  decide +kernel

end Config
end EnvTags
