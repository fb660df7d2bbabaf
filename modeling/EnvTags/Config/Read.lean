import EnvTags.Config.Basic
import EnvTags.Json.Value

/-!
# Reading a configuration

A configuration is written as a JSON object with a member for each setting, or as
an array of the settings in order. Settings that are missing have their default.
Members with other keys are ignored, but a setting must not be given twice.
-/

namespace EnvTags
namespace Config

/-- The settings of a configuration. -/
inductive Setting
  | tagKey
  | prefixFlag
  | defaultFlag
  | vendorDir
  | ignores
  deriving DecidableEq

namespace Setting

/-- The key of a setting. -/
def name : Setting → String
  | tagKey => "tagKey"
  | prefixFlag => "prefixFlag"
  | defaultFlag => "defaultFlag"
  | vendorDir => "vendorDir"
  | ignores => "ignores"

/-- All settings, in order. -/
def all : List Setting :=
  [tagKey, prefixFlag, defaultFlag, vendorDir, ignores]

/-- The setting with a key. -/
def ofName? (name : String) : Option Setting :=
  all.find? fun setting => setting.name == name

end Setting

/-- A configuration with one setting given by a value, absent when the value does
not fit the setting. -/
def set? (config : Config) (setting : Setting) (value : Json.Value) :
    Option Config :=
  match setting with
  | .tagKey => value.string?.map fun text =>
      { config with scheme := { config.scheme with key := text } }
  | .prefixFlag => value.string?.map fun text =>
      { config with scheme := { config.scheme with containerFlag := text } }
  | .defaultFlag => value.string?.map fun text =>
      { config with scheme := { config.scheme with defaultFlag := text } }
  | .vendorDir => value.string?.map fun text =>
      { config with vendorDirectory := text }
  | .ignores => value.strings?.map fun texts => { config with ignores := texts }

/-- The configuration that the members of an object give, where some settings
have been given already. -/
def ofMembers? (given : List Setting) (config : Config) :
    List (List Char × Json.Value) → Option Config
  | [] => some config
  | (key, value) :: members =>
      match Json.Value.decode key with
      | none => none
      | some name =>
          match Setting.ofName? (String.ofList name) with
          | none => ofMembers? given config members
          | some setting =>
              if setting ∈ given then none
              else
                match config.set? setting value with
                | none => none
                | some next => ofMembers? (setting :: given) next members

/-- The configuration that the elements of an array give to some settings. There
must not be more elements than settings. -/
def ofElements? (config : Config) :
    List Setting → List Json.Value → Option Config
  | _, [] => some config
  | [], _ :: _ => none
  | setting :: settings, value :: values =>
      match config.set? setting value with
      | none => none
      | some next => next.ofElements? settings values

/-- The configuration that a JSON value is. -/
def ofValue? : Json.Value → Option Config
  | .object members => ofMembers? [] {} members
  | .array elements => ofElements? {} Setting.all elements
  | _ => none

/-- The configuration that a text writes. -/
def parse? (text : String) : Option Config :=
  (Json.Value.parse? text).bind ofValue?

end Config
end EnvTags
