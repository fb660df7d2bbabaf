import EnvTags.Proofs.Analysis.Agreement
import EnvTags.Proofs.Dependency.Listing

/-!
# Analyses of file systems with the same view

In two file systems with the same view the packages have the same directories, if of
those that are read alike the same ones are listed first. So lookups in them can
differ only through the scan of a directory, and analyses only through what they
read.
-/

namespace EnvTags

namespace Expansion

open Dependency (Resolver ScanCache scanPackage)

/-- All scans in another file system give the same, unless they are excused. -/
def ScansAgree (excuse : Excuse) (system other : FileSystem) : Prop :=
  ∀ (cache : ScanCache) (directory : Path) (package : String),
    excuse.AgreesOnScan (scanPackage system cache directory package)
      (scanPackage other cache directory package)

variable
  {excuse : Excuse}
  {view : Content → Content}
  {system other : FileSystem}
  (sameView : other.seen view = system.seen view)
  (sameFirsts : system.SameFirsts other)
  (scans : ScansAgree excuse system other)
include sameView sameFirsts scans

/-- Types are resolved alike if directories are scanned alike. -/
theorem resolve_agrees
    (resolver : Resolver)
    (graph : Graph)
    (cache : ScanCache)
    (packageName typeName : String)
    (imports : List Import) :
    excuse.AgreesOnScan
      (resolver.resolve system graph cache packageName typeName imports)
      (resolver.resolve other graph cache packageName typeName imports) := by
  unfold Resolver.resolve
  cases Import.bound? packageName imports with
  | none => exact .inl rfl
  | some imported =>
      simp only
      cases graph.find? ⟨imported.path, typeName⟩ with
      | some record => exact .inl rfl
      | none =>
          simp only [Resolver.resolveIn, Resolver.locate_congr sameView sameFirsts]
          rcases resolver.locate system imported.path with error | _ | directory
          · exact .inl rfl
          · exact .inl rfl
          · rcases scans cache directory imported.path with same | covered
            · exact .inl (by simp only [same])
            · refine .inr ?_
              simp only
              generalize scanPackage system cache directory imported.path =
                answer at covered ⊢
              rcases answer with ⟨error | records, next⟩
              · simpa [Excuse.CoversScan] using covered
              · have scanned : excuse.ofCache next := by
                  simpa [Excuse.CoversScan] using covered
                simp only
                split <;> exact .inr scanned

/-- Two settings agree if directories are scanned alike. -/
theorem agreement_of_scansAgree
    {setting : Setting}
    (isSystem : setting.system = system) :
    Agreement excuse setting { setting with system := other } := by
  subst isSystem
  refine ⟨rfl, ?_⟩
  intro state record field
  unfold nestedRecord
  cases field.typeRef with
  | builtin type => exact .inl rfl
  | composite text => exact .inl rfl
  | unqualified name =>
      simp only
      refine sibling_agrees ?_ ?_ field name
      · rfl
      · exact scans state.cache record.directory record.package
  | qualified package name =>
      simp only
      refine imported_agrees ?_ field
      exact resolve_agrees sameView sameFirsts scans setting.resolver setting.graph
        state.cache package name record.imports

end Expansion

namespace Analysis

open Expansion (Excuse ScansAgree)

/-- An analysis gives the same in two file systems with the same view, which list the
same ones first of directories that are read alike, if the manifest and the source
files of the project have the same texts and directories are scanned alike, unless it
is excused. -/
theorem run_eq_or_covers_of_scansAgree
    {excuse : Excuse}
    {view : Content → Content}
    {system other : FileSystem}
    {request : Request}
    (sameView : other.seen view = system.seen view)
    (sameFirsts : system.SameFirsts other)
    (sameManifest : system.SameTexts other [Project.manifestPath request.root])
    (sameTexts : ∀ paths,
      Project.sourceFiles system request.root request.exclusions = .ok paths →
        system.SameTexts other paths)
    (scans : ScansAgree excuse system other) :
    run other request = run system request ∨
      ∃ scanned : Scanned system request,
        excuse.Covers (expandRoots scanned.setting scanned.roots) :=
  run_eq_or_covers (Project.modulePath_congr sameManifest)
    (Project.scan_congr sameView sameTexts) fun _ _ =>
      Expansion.agreement_of_scansAgree sameView sameFirsts scans rfl

end Analysis
end EnvTags
