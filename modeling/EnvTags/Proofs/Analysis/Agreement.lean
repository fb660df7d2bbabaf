import EnvTags.Proofs.Analysis
import EnvTags.Proofs.Expansion.Agreement

/-!
# Two analyses

Two analyses that read the same module path and scan the same source files expand
the same roots. If their settings agree up to an excuse, so do the analyses. The
bounds of the two may differ, but neither of them is ever reached.
-/

namespace EnvTags
namespace Analysis

open Expansion (Agreement Excuse Setting)

/-- Roots are expanded in the same way in settings that agree. -/
theorem expandRoots_agrees
    {excuse : Excuse}
    {setting other : Setting}
    (agreement : Agreement excuse setting other)
    (roots : List Record) :
    excuse.Agrees (expandRoots setting roots) (expandRoots other roots) := by
  have enough := (expandRoots_eq setting roots).2
  rcases Expansion.expandAll_agrees agreement
    (Expansion.keyCount setting {} roots) roots {} with same | covered
  · refine .inl ?_
    rw [(expandRoots_eq other roots).1, expandRoots, ← same]
    apply Expansion.expandAll_extends
      (Expansion.expand_extends_expandWithin other _)
    rw [same]
    exact enough
  · exact .inr covered

/-- An expansion that fails is an analysis that fails. -/
theorem Scanned.run_eq_error
    {system : FileSystem}
    {request : Request}
    (scanned : Scanned system request)
    {error : AnalysisError}
    (failed : (expandRoots scanned.setting scanned.roots).1 = .error error) :
    run system request = .error error := by
  rw [scanned.run_eq]
  generalize expandRoots scanned.setting scanned.roots = result at failed ⊢
  rcases result with ⟨cause | entries, state⟩
  · simpa using failed
  · simp at failed

/-- Two analyses give the same if their projects are scanned alike and their
settings agree, unless the expansion of the roots is excused. -/
theorem run_eq_or_covers
    {excuse : Excuse}
    {system otherSystem : FileSystem}
    {request otherRequest : Request}
    (sameModulePath : Project.modulePath otherSystem otherRequest.root =
      Project.modulePath system request.root)
    (sameFiles : ∀ modulePath,
      Project.scan otherSystem otherRequest.root modulePath
          otherRequest.exclusions =
        Project.scan system request.root modulePath request.exclusions)
    (agreement : ∀ modulePath files,
      Agreement excuse (request.setting system modulePath files)
        (otherRequest.setting otherSystem modulePath files)) :
    run otherSystem otherRequest = run system request ∨
      ∃ scanned : Scanned system request,
        excuse.Covers (expandRoots scanned.setting scanned.roots) := by
  cases read : Project.modulePath system request.root with
  | error error => exact .inl (by simp [run, sameModulePath, read])
  | ok modulePath =>
      cases files : Project.scan system request.root modulePath
          request.exclusions with
      | error error =>
          exact .inl (by simp [run, sameModulePath, read, sameFiles, files])
      | ok found =>
          let scanned : Scanned system request := ⟨modulePath, found, read, files⟩
          let other : Scanned otherSystem otherRequest :=
            ⟨modulePath, found, sameModulePath.trans read,
              (sameFiles modulePath).trans files⟩
          have agreed : Agreement excuse scanned.setting other.setting :=
            agreement modulePath found
          have sameRoots : other.roots = scanned.roots := by
            rw [Scanned.roots, agreed.scheme_eq]
            rfl
          rcases expandRoots_agrees agreed scanned.roots with same | covered
          · refine .inl ?_
            rw [scanned.run_eq, other.run_eq, sameRoots, same]
            rfl
          · exact .inr ⟨scanned, covered⟩

end Analysis
end EnvTags
