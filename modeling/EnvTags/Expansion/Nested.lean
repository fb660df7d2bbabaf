import EnvTags.Expansion.State

/-!
# Nested records

A container field stands for the record that its type names. An unqualified name
is looked for in the graph and then in the directory of the record that declares
the field; a qualified one in the imported package. What is not found is
reported.
-/

namespace EnvTags
namespace Expansion

/-- Look for a record of the package of another record. -/
def sibling
    (setting : Setting)
    (state : State)
    (record : Record)
    (field : Field)
    (name : String) : Step (Option Record) :=
  match setting.graph.find? ⟨record.package, name⟩ with
  | some found => (.ok (some found), state)
  | none =>
      match Dependency.scanPackage setting.system state.cache record.directory
          record.package with
      | (.error error, cache) => (.error error, { state with cache := cache })
      | (.ok records, cache) =>
          match records.find? fun candidate => candidate.name = name with
          | some found => (.ok (some found), { state with cache := cache })
          | none =>
              (.ok none, State.report { state with cache := cache } record field
                (.typeNotFound name))

/-- Look for a record of an imported package. -/
def imported
    (setting : Setting)
    (state : State)
    (record : Record)
    (field : Field)
    (package name : String) : Step (Option Record) :=
  match setting.resolver.resolve setting.system setting.graph state.cache package
      name record.imports with
  | (.error error, cache) => (.error error, { state with cache := cache })
  | (.ok (.found found), cache) =>
      (.ok (some found), { state with cache := cache })
  | (.ok .importNotMatched, cache) =>
      (.ok none, State.report { state with cache := cache } record field
        (.importNotMatched package))
  | (.ok (.notFound importPath), cache) =>
      (.ok none, State.report { state with cache := cache } record field
        (.dependencyNotFound importPath name))

/-- Look for the record that a container field stands for. A type of another
form stands for none. -/
def nestedRecord
    (setting : Setting)
    (state : State)
    (record : Record)
    (field : Field) : Step (Option Record) :=
  match field.typeRef with
  | .unqualified name => sibling setting state record field name
  | .qualified package name => imported setting state record field package name
  | .builtin _ => (.ok none, state)
  | .composite _ => (.ok none, state)

end Expansion
end EnvTags
