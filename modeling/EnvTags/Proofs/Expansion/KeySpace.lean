import EnvTags.Proofs.Expansion.Invariant
import EnvTags.Proofs.Project.Scan

/-!
# The keys of an expansion

The records of an expansion need not be known before it starts: directories are
scanned on the way, for packages whose paths stand in files that were scanned on
the way. Still all keys come from a stock that is fixed in advance. Its packages
are the identities and import paths of the known records and of the source files
of the file system, its names those of the records and structs there.
-/

namespace EnvTags

namespace Entry

theorem sourceTexts_subset_sourceTextsAmong
    {entries : List (Name × Entry)}
    {child : Name × Entry}
    (present : child ∈ entries) :
    sourceTexts child.1 child.2 ⊆ sourceTextsAmong entries := by
  induction entries with
  | nil => cases present
  | cons entry entries inductionHypothesis =>
      intro text inside
      simp only [sourceTextsAmong, List.mem_append]
      rcases List.mem_cons.mp present with rfl | later
      · exact Or.inl inside
      · exact Or.inr (inductionHypothesis later inside)

/-- Having its source files among some texts passes from a directory to its
entries. -/
theorem hereditary_sourceTexts_subset (texts : List String) :
    FileSystem.Hereditary fun name entry => sourceTexts name entry ⊆ texts := by
  intro name entries within child present
  rw [sourceTexts] at within
  exact fun text inside =>
    within (sourceTexts_subset_sourceTextsAmong present inside)

end Entry

/-- What can be read as a source file is one of the source files of the
tree. -/
theorem FileSystem.mem_sourceTexts_of_readText
    {system : FileSystem}
    {directory : Path}
    {name : Name}
    {source : String}
    (isSource : Project.isSourceName name = true)
    (read : system.readText (directory.child name) = .ok source) :
    source ∈ Entry.sourceTexts "" system.root := by
  unfold FileSystem.readText at read
  cases found : system.entry (directory.child name) with
  | error failure => simp [found] at read
  | ok entry =>
      have within : Entry.sourceTexts name entry ⊆
          Entry.sourceTexts "" system.root :=
        FileSystem.holds_of_entry_child
          (Entry.hereditary_sourceTexts_subset _) (List.Subset.refl _)
          (Project.stepsToEntry_of_isSourceName isSource) found
      rcases entry with (characters | raw) | entries
      · simp only [found, Except.ok.injEq] at read
        subst read
        exact within (by simp [Entry.sourceTexts, isSource])
      · simp [found] at read
      · simp [found] at read

namespace Expansion

/-- What a source file of a directory declares is among the declarations of the
file system. -/
theorem mem_allDeclarations
    {system : FileSystem}
    {directory : Path}
    {name : Name}
    {declared : Go.Declarations}
    (isSource : Project.isSourceName name = true)
    (declares : Project.Declares system (directory.child name) declared) :
    declared ∈ allDeclarations system := by
  obtain ⟨source, tree, read, parsed, rfl⟩ := declares
  have listed := FileSystem.mem_sourceTexts_of_readText isSource read
  exact List.mem_map_of_mem (List.mem_filterMap.mpr ⟨source, listed, parsed⟩)

/-- A stock of packages and record names. -/
structure KeySpace where
  /-- The packages. -/
  packages : List String
  /-- The names. -/
  names : List String

namespace KeySpace

/-- The keys with a package and a name of the stock. -/
def keys (space : KeySpace) : List Key :=
  space.packages.flatMap fun package => space.names.map (Key.mk package)

theorem length_keys (space : KeySpace) :
    space.keys.length = space.packages.length * space.names.length := by
  simp [keys, List.length_flatMap, List.map_const']

/-- A record has its key and the paths of its imports in the stock. -/
structure Holds (space : KeySpace) (record : Record) : Prop where
  package_mem : record.package ∈ space.packages
  name_mem : record.name ∈ space.names
  imports_mem : ∀ imported ∈ record.imports, imported.path ∈ space.packages

theorem Holds.key_mem
    {space : KeySpace}
    {record : Record}
    (holds : space.Holds record) :
    record.key ∈ space.keys := by
  refine List.mem_flatMap.mpr ⟨record.package, holds.package_mem, ?_⟩
  exact List.mem_map_of_mem holds.name_mem

/-- The records of the graph and the source files have their packages, names and
imports in the stock. -/
structure Covers (space : KeySpace) (setting : Setting) : Prop where
  graph_holds : ∀ record ∈ setting.graph.records, space.Holds record
  imports_mem : ∀ declared ∈ allDeclarations setting.system,
    ∀ imported ∈ declared.imports, imported.path ∈ space.packages
  names_mem : ∀ declared ∈ allDeclarations setting.system,
    ∀ struct ∈ declared.structs, struct.name ∈ space.names

/-- Expansions stay within a stock that covers the graph and the source
files. -/
def Covers.invariant
    {space : KeySpace}
    {setting : Setting}
    (covers : space.Covers setting) : Invariant setting where
  ofRecord := space.Holds
  ofFound := fun _ => space.Holds
  ofScan := fun _ package => package ∈ space.packages
  graph_ofRecord := covers.graph_holds
  found_ofRecord := fun _ _ holds => holds
  own_ofScan := fun _ holds => holds.package_mem
  imported_ofScan := fun _ imported _ holds present _ =>
    holds.imports_mem imported present
  scan_ofFound := by
    intro directory package records inSpace read record present
    obtain ⟨samePackage, name, declared, isSource, child, declares, imports,
      struct, inStructs, sameName⟩ := Dependency.mem_packageRecords read present
    rw [child] at declares
    have inFiles := mem_allDeclarations isSource declares
    refine ⟨samePackage ▸ inSpace, ?_, ?_⟩
    · rw [sameName]
      exact covers.names_mem declared inFiles struct inStructs
    · rw [imports]
      exact covers.imports_mem declared inFiles

/-- The packages and names that are known before some roots are expanded. -/
def ofRoots (setting : Setting) (state : State) (roots : List Record) : KeySpace where
  packages := keyPackages setting state roots
  names := keyNames setting state roots

theorem length_keys_ofRoots
    (setting : Setting)
    (state : State)
    (roots : List Record) :
    (ofRoots setting state roots).keys.length = keyCount setting state roots :=
  length_keys _

/-- The records known in advance have their keys in the stock. -/
theorem holds_ofRoots
    {setting : Setting}
    {state : State}
    {roots : List Record}
    {record : Record}
    (known : record ∈ knownRecords setting state roots) :
    (ofRoots setting state roots).Holds record := by
  refine ⟨?_, ?_, ?_⟩
  · simp only [ofRoots, keyPackages, List.mem_eraseDups, List.mem_append]
    exact Or.inl (List.mem_map_of_mem known)
  · simp only [ofRoots, keyNames, List.mem_eraseDups, List.mem_append]
    exact Or.inl (List.mem_map_of_mem known)
  · intro imported present
    simp only [ofRoots, keyPackages, List.mem_eraseDups, List.mem_append]
    refine Or.inr (List.mem_map_of_mem (List.mem_append_left _ ?_))
    exact List.mem_flatMap.mpr ⟨record, known, present⟩

theorem holds_of_mem_roots
    {setting : Setting}
    {state : State}
    {roots : List Record}
    {record : Record}
    (isRoot : record ∈ roots) :
    (ofRoots setting state roots).Holds record :=
  holds_ofRoots (by simp [knownRecords, isRoot])

theorem covers_ofRoots
    (setting : Setting)
    (state : State)
    (roots : List Record) :
    (ofRoots setting state roots).Covers setting := by
  refine ⟨?_, ?_, ?_⟩
  · intro record inGraph
    exact holds_ofRoots (by simp [knownRecords, inGraph])
  · intro declared inFiles imported present
    simp only [ofRoots, keyPackages, List.mem_eraseDups, List.mem_append]
    refine Or.inr (List.mem_map_of_mem (List.mem_append_right _ ?_))
    exact List.mem_flatMap.mpr ⟨declared, inFiles, present⟩
  · intro declared inFiles struct present
    simp only [ofRoots, keyNames, List.mem_eraseDups, List.mem_append]
    refine Or.inr (List.mem_map_of_mem ?_)
    exact List.mem_flatMap.mpr ⟨declared, inFiles, present⟩

/-- The directories scanned before have their records in the stock. -/
theorem ofCache_ofRoots
    (setting : Setting)
    (state : State)
    (roots : List Record) :
    (covers_ofRoots setting state roots).invariant.OfCache state.cache := by
  intro scanned inCache record present
  refine holds_ofRoots ?_
  simp only [knownRecords, List.mem_append]
  exact Or.inr (List.mem_flatMap.mpr ⟨scanned, inCache, present⟩)

/-! ## Keys that are not being expanded -/

/-- The number of keys of the stock that are not being expanded. -/
def free (space : KeySpace) (active : List Key) : Nat :=
  (space.keys.filter fun key => key ∉ active).length

/-- Entering a record of the stock that is not being expanded leaves fewer
keys. -/
theorem free_cons_lt
    {space : KeySpace}
    {active : List Key}
    {key : Key}
    (inSpace : key ∈ space.keys)
    (fresh : key ∉ active) :
    space.free (key :: active) < space.free active := by
  have fewer : space.keys.filter (fun other => other ∉ key :: active) =
      (space.keys.filter fun other => other ∉ active).filter
        fun other => other ≠ key := by
    rw [List.filter_filter]
    apply List.filter_congr
    intro other _
    simp [not_or]
  rw [free, fewer]
  apply List.length_filter_lt_length_iff_exists.mpr
  exact ⟨key, List.mem_filter.mpr ⟨inSpace, by simpa using fresh⟩, by simp⟩

theorem free_enter_lt
    {space : KeySpace}
    {state : State}
    {key : Key}
    (inSpace : key ∈ space.keys)
    (fresh : key ∉ state.active) :
    space.free (state.enter key).active < space.free state.active := by
  rw [State.enter_active_of_notMem state key fresh]
  exact free_cons_lt inSpace fresh

/-- Before a record of the stock is left again, not all keys are free. -/
theorem free_enter_lt_length_keys
    {space : KeySpace}
    {key : Key}
    (inSpace : key ∈ space.keys)
    (state : State) :
    space.free (state.enter key).active < space.keys.length := by
  apply List.length_filter_lt_length_iff_exists.mpr
  exact ⟨key, inSpace, by simp⟩

end KeySpace
end Expansion
end EnvTags
