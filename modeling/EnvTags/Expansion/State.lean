import EnvTags.Dependency.Resolver
import EnvTags.Diagnostic
import EnvTags.Variable

/-!
# The state of an expansion

A record is expanded into the variables of its fields. While that goes on, the
scanned directories and the diagnostics grow, and the keys of the records that
are being expanded are held, so that none is entered twice.
-/

namespace EnvTags
namespace Expansion

/-- What an expansion looks things up in. It does not change. -/
structure Setting where
  /-- The files. -/
  system : FileSystem
  /-- The records of the project. -/
  graph : Graph
  /-- How tags describe variables. -/
  scheme : Tag.Scheme
  /-- Where packages are looked for. -/
  resolver : Dependency.Resolver

/-- What changes during an expansion. -/
structure State where
  /-- The directories scanned so far. -/
  cache : Dependency.ScanCache := []
  /-- The diagnostics so far, in order. -/
  diagnostics : List Diagnostic := []
  /-- The keys of the records that are being expanded. -/
  active : List Key := []
  deriving DecidableEq

namespace State

/-- Start to expand the record with a key. -/
def enter (state : State) (key : Key) : State :=
  { state with
    active := if key ∈ state.active then state.active else key :: state.active }

/-- End to expand the record with a key. -/
def leave (state : State) (key : Key) : State :=
  { state with active := state.active.filter fun other => other ≠ key }

/-- Add a diagnostic about a field. -/
def report
    (state : State)
    (record : Record)
    (field : Field)
    (omission : Omission) : State :=
  { state with
    diagnostics :=
      state.diagnostics ++ [⟨record.key, field.name, omission⟩] }

end State

/-- What a step of an expansion answers: a value or an error, and in both cases
the state after it. -/
abbrev Step (α : Type) := Except AnalysisError α × State

end Expansion
end EnvTags
