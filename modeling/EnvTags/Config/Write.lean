import EnvTags.Config.Basic

/-!
# Writing a configuration

A configuration is written as a JSON object with one setting a line.
-/

namespace EnvTags
namespace Config

/-- A hexadecimal digit. -/
def hexDigit (value : Nat) : Char :=
  Nat.digitChar value

/-- A character as it is written in a JSON string. -/
def writeChar (c : Char) : List Char :=
  if c = '"' then ['\\', '"']
  else if c = '\\' then ['\\', '\\']
  else if c = '\n' then ['\\', 'n']
  else if c = '\r' then ['\\', 'r']
  else if c = '\t' then ['\\', 't']
  else if c = '\x08' then ['\\', 'b']
  else if c = '\x0c' then ['\\', 'f']
  else if c < ' ' then
    ['\\', 'u', '0', '0', hexDigit (c.toNat / 16), hexDigit (c.toNat % 16)]
  else [c]

/-- A string as it is written in JSON. -/
def writeString (text : String) : String :=
  "\"" ++ String.ofList (text.toList.flatMap writeChar) ++ "\""

/-- Lines with commas between them, each after some blanks. -/
def writeLines (indent : String) (lines : List String) : String :=
  String.intercalate ",\n" (lines.map fun line => indent ++ line)

/-- A list of strings as it is written in JSON, one a line. -/
def writeStrings (texts : List String) : String :=
  if texts.isEmpty then "[]"
  else "[\n" ++ writeLines "    " (texts.map writeString) ++ "\n  ]"

/-- A setting with its value. -/
def writeMember (name value : String) : String :=
  writeString name ++ ": " ++ value

/-- The text of a configuration. -/
def write (config : Config) : String :=
  "\x7b\n" ++ writeLines "  "
    (config.requiredSettings.map
        (fun setting => writeMember setting.1 (writeString setting.2)) ++
      [writeMember "ignores" (writeStrings config.ignores)]) ++ "\n\x7d"

end Config
end EnvTags
