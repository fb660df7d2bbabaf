import EnvTags.Dependency.Resolver
import EnvTags.Proofs.Graph.Index

/-!
# What a resolution can do

A qualified type is resolved in one of seven ways, which `Resolver.ResolveStep`
lists with what each of them has met. In the last three of them a directory is
scanned, or was scanned before.
-/

namespace EnvTags

/-- The import that a name refers to is one of the imports. -/
theorem Import.mem_of_bound?
    {name : String}
    {imports : List Import}
    {imported : Import}
    (bound : Import.bound? name imports = some imported) :
    imported ∈ imports := by
  unfold Import.bound? at bound
  simp only [Option.or_eq_some_iff] at bound
  obtain (found | ⟨-, found⟩) | ⟨-, found⟩ := bound <;>
    exact List.mem_of_find?_eq_some found

namespace Dependency

/-- The records known for a directory are listed with its components. -/
theorem ScanCache.mem_of_records?
    {cache : ScanCache}
    {directory : Path}
    {records : List Record}
    (known : cache.records? directory = some records) :
    (directory.components, records) ∈ cache := by
  obtain ⟨earlier, later, rfl, -⟩ := List.lookup_eq_some_iff.mp known
  simp

/-- What a scan answers is known afterwards, and it was known before or it has
just been read. -/
theorem scanPackage_eq_ok
    {system : FileSystem}
    {cache next : ScanCache}
    {directory : Path}
    {package : String}
    {records : List Record}
    (scanned : scanPackage system cache directory package = (.ok records, next)) :
    (cache.records? directory = some records ∧ next = cache) ∨
      (packageRecords system directory package = .ok records ∧
        next = (directory.components, records) :: cache) := by
  unfold scanPackage at scanned
  cases known : cache.records? directory with
  | some others =>
      simp only [known, Prod.mk.injEq, Except.ok.injEq] at scanned
      obtain ⟨rfl, rfl⟩ := scanned
      exact .inl ⟨rfl, rfl⟩
  | none =>
      cases read : packageRecords system directory package with
      | error error => simp [known, read] at scanned
      | ok others =>
          simp only [known, read, Prod.mk.injEq, Except.ok.injEq] at scanned
          obtain ⟨rfl, rfl⟩ := scanned
          exact .inr ⟨rfl, rfl⟩

/-- A scan that fails leaves the scanned directories as they are. -/
theorem scanPackage_eq_error
    {system : FileSystem}
    {cache next : ScanCache}
    {directory : Path}
    {package : String}
    {error : AnalysisError}
    (scanned : scanPackage system cache directory package = (.error error, next)) :
    packageRecords system directory package = .error error ∧ next = cache := by
  unfold scanPackage at scanned
  cases known : cache.records? directory with
  | some others => simp [known] at scanned
  | none =>
      cases read : packageRecords system directory package with
      | ok others => simp [known, read] at scanned
      | error cause =>
          simp only [known, read, Prod.mk.injEq, Except.error.injEq] at scanned
          obtain ⟨rfl, rfl⟩ := scanned
          exact ⟨rfl, rfl⟩

namespace Resolver

/-- The ways in which a qualified type is resolved. -/
inductive ResolveStep
    (resolver : Resolver)
    (system : FileSystem)
    (graph : Graph)
    (cache : ScanCache)
    (packageName typeName : String)
    (imports : List Import) : Except AnalysisError Resolution × ScanCache → Prop
  | unmatched
      (unbound : Import.bound? packageName imports = none) :
      ResolveStep resolver system graph cache packageName typeName imports
        (.ok .importNotMatched, cache)
  | inGraph
      (imported : Import)
      (bound : Import.bound? packageName imports = some imported)
      (record : Record)
      (known : graph.find? ⟨imported.path, typeName⟩ = some record) :
      ResolveStep resolver system graph cache packageName typeName imports
        (.ok (.found record), cache)
  | unlocatable
      (imported : Import)
      (bound : Import.bound? packageName imports = some imported)
      (unknown : graph.find? ⟨imported.path, typeName⟩ = none)
      (error : AnalysisError)
      (failed : resolver.locate system imported.path = .error error) :
      ResolveStep resolver system graph cache packageName typeName imports
        (.error error, cache)
  | unlocated
      (imported : Import)
      (bound : Import.bound? packageName imports = some imported)
      (unknown : graph.find? ⟨imported.path, typeName⟩ = none)
      (absent : resolver.locate system imported.path = .ok none) :
      ResolveStep resolver system graph cache packageName typeName imports
        (.ok (.notFound imported.path), cache)
  | unreadable
      (imported : Import)
      (bound : Import.bound? packageName imports = some imported)
      (unknown : graph.find? ⟨imported.path, typeName⟩ = none)
      (directory : Path)
      (located : resolver.locate system imported.path = .ok (some directory))
      (error : AnalysisError)
      (next : ScanCache)
      (failed : scanPackage system cache directory imported.path =
        (.error error, next)) :
      ResolveStep resolver system graph cache packageName typeName imports
        (.error error, next)
  | undeclared
      (imported : Import)
      (bound : Import.bound? packageName imports = some imported)
      (unknown : graph.find? ⟨imported.path, typeName⟩ = none)
      (directory : Path)
      (located : resolver.locate system imported.path = .ok (some directory))
      (records : List Record)
      (next : ScanCache)
      (scanned : scanPackage system cache directory imported.path =
        (.ok records, next))
      (absent : (records.find? fun record => record.name = typeName) = none) :
      ResolveStep resolver system graph cache packageName typeName imports
        (.ok (.notFound imported.path), next)
  | declared
      (imported : Import)
      (bound : Import.bound? packageName imports = some imported)
      (unknown : graph.find? ⟨imported.path, typeName⟩ = none)
      (directory : Path)
      (located : resolver.locate system imported.path = .ok (some directory))
      (records : List Record)
      (next : ScanCache)
      (scanned : scanPackage system cache directory imported.path =
        (.ok records, next))
      (record : Record)
      (found : (records.find? fun record => record.name = typeName) =
        some record) :
      ResolveStep resolver system graph cache packageName typeName imports
        (.ok (.found record), next)

/-- Every resolution is one of these steps. -/
theorem resolve_step
    (resolver : Resolver)
    (system : FileSystem)
    (graph : Graph)
    (cache : ScanCache)
    (packageName typeName : String)
    (imports : List Import) :
    ResolveStep resolver system graph cache packageName typeName imports
      (resolver.resolve system graph cache packageName typeName imports) := by
  unfold resolve resolveIn
  cases bound : Import.bound? packageName imports with
  | none => exact .unmatched bound
  | some imported =>
      simp only
      cases unknown : graph.find? ⟨imported.path, typeName⟩ with
      | some record => exact .inGraph imported bound record unknown
      | none =>
          rcases located : resolver.locate system imported.path with
            error | _ | directory
          · exact .unlocatable imported bound unknown error located
          · exact .unlocated imported bound unknown located
          · rcases scanned : scanPackage system cache directory imported.path
              with ⟨error | records, next⟩
            · simp only [scanned]
              exact .unreadable imported bound unknown directory located error
                next scanned
            · simp only [scanned]
              cases found : records.find? fun record =>
                  record.name = typeName with
              | none =>
                  exact .undeclared imported bound unknown directory located
                    records next scanned found
              | some record =>
                  exact .declared imported bound unknown directory located
                    records next scanned record found

end Resolver
end Dependency
end EnvTags
