import EnvTags.Tag.Pair
import EnvTags.Text.Split

/-!
# What a tag says about a variable

The value of the recognised key is a comma-separated list. Its first item is the
name of the variable, which may be empty. Of the items after it two flags count:
one makes the field a container whose variables share a prefix, the other gives
the default value. The last use of a flag wins and other items are ignored.
-/

namespace EnvTags
namespace Tag

/-- The key under which a variable is described, and the two flags. -/
structure Scheme where
  /-- The name of the pair that is read. -/
  key : String := "env"
  /-- The flag that makes a field a container. -/
  containerFlag : String := "prefix"
  /-- The flag that gives the default value. -/
  defaultFlag : String := "default"
  deriving DecidableEq

/-- The description of one field. -/
structure Descriptor where
  /-- The name of the variable. -/
  variableName : String
  /-- Whether the variables of a nested record belong to the field. -/
  isContainer : Bool := false
  /-- What is put before the names of the variables of a nested record. -/
  containerPrefix : String := ""
  /-- The value of the variable when nothing sets it. -/
  defaultValue : String := ""
  deriving DecidableEq

/-- An item of the list, cut at its first equals sign. -/
def item (text : List Char) : List Char × List Char :=
  (Text.cut '=' text).getD (text, [])

/-- The descriptor after one more item. -/
def Descriptor.read
    (scheme : Scheme)
    (descriptor : Descriptor)
    (text : List Char) : Descriptor :=
  let flag := String.ofList (item text).1
  let value := String.ofList (item text).2
  if flag = scheme.containerFlag then
    { descriptor with isContainer := true, containerPrefix := value }
  else if flag = scheme.defaultFlag then
    { descriptor with defaultValue := value }
  else descriptor

/-- The descriptor given by the items of a value. -/
def Descriptor.ofItems (scheme : Scheme) : List (List Char) → Descriptor
  | [] => { variableName := "" }
  | name :: items =>
      items.foldl (Descriptor.read scheme) { variableName := String.ofList name }

/-- The description that a tag gives, absent when the tag does not have the
recognised key. -/
def Scheme.describe (scheme : Scheme) (tag : String) : Option Descriptor :=
  match lookup tag scheme.key with
  | none => none
  | some value =>
      some (Descriptor.ofItems scheme (value.toList.splitOn ','))

end Tag
end EnvTags
