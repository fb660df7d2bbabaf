import EnvTags.Expansion.Nested

/-!
# Expanding records

The fields of a record are visited in the order of their declarations. A field
that is not a container, or whose type is builtin, is one variable; a container
gives the variables of its nested record with its own prefix before their names.
A record that is being expanded already is not entered again.
-/

namespace EnvTags
namespace Expansion

/-- How a nested record is expanded: from a state, with a prefix. -/
abbrev Expander := State → String → Record → Step (List Variable)

/-- The variable of a field. -/
def leaf
    (namePrefix : String)
    (record : Record)
    (descriptor : Tag.Descriptor) : Variable :=
  ⟨record.package, namePrefix ++ descriptor.variableName,
    descriptor.defaultValue⟩

/-- The variables of a container field. -/
def expandContainer
    (setting : Setting)
    (expander : Expander)
    (namePrefix : String)
    (record : Record)
    (field : Field)
    (descriptor : Tag.Descriptor)
    (state : State) : Step (List Variable) :=
  match nestedRecord setting state record field with
  | (.error error, next) => (.error error, next)
  | (.ok none, next) => (.ok [], next)
  | (.ok (some target), next) =>
      if target.key ∈ next.active then
        (.ok [], next.report record field .cycle)
      else expander next (namePrefix ++ descriptor.containerPrefix) target

/-- The variables of a field. -/
def expandField
    (setting : Setting)
    (expander : Expander)
    (namePrefix : String)
    (record : Record)
    (field : Field)
    (state : State) : Step (List Variable) :=
  match setting.scheme.describe field.tag with
  | none =>
      if field.typeRef.isBuiltin then
        (.ok [], state.report record field .untagged)
      else (.ok [], state)
  | some descriptor =>
      if field.typeRef.isBuiltin || !descriptor.isContainer then
        (.ok [leaf namePrefix record descriptor], state)
      else
        expandContainer setting expander namePrefix record field descriptor state

/-- The variables of some fields, in order. -/
def expandFields
    (setting : Setting)
    (expander : Expander)
    (namePrefix : String)
    (record : Record) : List Field → State → Step (List Variable)
  | [], state => (.ok [], state)
  | field :: fields, state =>
      match expandField setting expander namePrefix record field state with
      | (.error error, next) => (.error error, next)
      | (.ok entries, next) =>
          match expandFields setting expander namePrefix record fields next with
          | (.error error, last) => (.error error, last)
          | (.ok others, last) => (.ok (entries ++ others), last)

/-- The variables of a record, with a bound on how deep records are nested. -/
def expandWithin (setting : Setting) : Nat → Expander
  | 0, state, _, _ => (.error .tooDeep, state)
  | depth + 1, state, namePrefix, record =>
      match expandFields setting (expandWithin setting depth) namePrefix record
          record.fields (state.enter record.key) with
      | (result, last) => (result, last.leave record.key)

/-- The variables of some records, one after the other. The first error
counts. -/
def expandAll (expander : Expander) : List Record → State → Step (List Variable)
  | [], state => (.ok [], state)
  | record :: records, state =>
      match expander state "" record with
      | (.error error, next) => (.error error, next)
      | (.ok entries, next) =>
          match expandAll expander records next with
          | (.error error, last) => (.error error, last)
          | (.ok others, last) => (.ok (entries ++ others), last)

end Expansion
end EnvTags
