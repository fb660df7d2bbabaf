import EnvTags.Command.Word

/-!
# Options of a command line

Options are read word by word. A value that is attached to its option is
accepted at once. Otherwise the next ordinary word is the value, which is
accepted only when the next option comes or the options end: a fault in the words
between is reported first. Every option and every switch is given once at most.
-/

namespace EnvTags
namespace Command

/-- Why a command line asks for no work. -/
inductive Refusal
  /-- A value is missing, or it is not one that the option takes. -/
  | badValue
  /-- Two parts of the command line exclude each other. -/
  | conflict
  /-- A switch is given a value. -/
  | unwantedValue
  /-- There is no such option, or nothing may stand there. -/
  | unexpectedWord
  /-- There is no such command. -/
  | unknownCommand
  /-- Help is asked for. -/
  | helpWanted
  /-- The version is asked for. -/
  | versionWanted
  deriving DecidableEq

/-- An option that takes a value. -/
inductive Setting
  /-- The directory to work in. -/
  | path
  /-- The module cache. -/
  | moduleCache
  /-- The search path for workspaces. -/
  | searchPath
  deriving DecidableEq

/-- An option that takes no value. -/
inductive Switch
  /-- Say more. -/
  | verbose
  /-- Show help. -/
  | help
  /-- Show the version. -/
  | version
  deriving DecidableEq

/-- What an option is. -/
inductive OptionKind
  /-- An option that takes a value. -/
  | setting (setting : Setting)
  /-- An option that takes no value. -/
  | switch (switch : Switch)
  deriving DecidableEq

/-- The options of a command by their long names and their letters. -/
structure Vocabulary where
  /-- The option with a long name. -/
  long? : String → Option OptionKind
  /-- The option with a letter. -/
  short? : Char → Option OptionKind

/-- Whether a setting takes a value. A path is not empty. -/
def Setting.accepts (setting : Setting) (value : String) : Bool :=
  match setting with
  | path => value != ""
  | moduleCache => value != ""
  | searchPath => true

/-- A setting that waits to be accepted. -/
structure Pending where
  /-- The setting. -/
  setting : Setting
  /-- The value, once it is there. -/
  value : Option String := none
  deriving DecidableEq

/-- The options that have been read. -/
structure Options where
  /-- The values that have been accepted. -/
  values : List (Setting × String) := []
  /-- The switches that have been turned on. -/
  switches : List Switch := []
  /-- The last setting, as long as it is not accepted. -/
  pending : Option Pending := none
  deriving DecidableEq

namespace Options

/-- The value of a setting. -/
def value? (options : Options) (setting : Setting) : Option String :=
  options.values.lookup setting

/-- Whether a switch is on. -/
def has (options : Options) (switch : Switch) : Bool :=
  options.switches.contains switch

/-- Whether no option has been read. -/
def isEmpty (options : Options) : Bool :=
  options = {}

/-- Accept a value for a setting. -/
def accept
    (options : Options)
    (setting : Setting)
    (value : Option String) : Except Refusal Options :=
  match value with
  | none => .error .badValue
  | some value =>
      if (options.value? setting).isSome then .error .conflict
      else if setting.accepts value then
        .ok { options with values := options.values ++ [(setting, value)] }
      else .error .badValue

/-- Accept the setting that waits. -/
def settle (options : Options) : Except Refusal Options :=
  match options.pending with
  | none => .ok options
  | some pending =>
      { options with pending := none }.accept pending.setting pending.value

/-- Turn on a switch. Help and version end the command line. -/
def turnOn (options : Options) (switch : Switch) : Except Refusal Options :=
  match switch with
  | .help => .error .helpWanted
  | .version => .error .versionWanted
  | .verbose =>
      if options.has switch then .error .conflict
      else .ok { options with switches := options.switches ++ [switch] }

/-- Read a setting with the value that is attached to it. -/
def readSetting
    (options : Options)
    (setting : Setting)
    (attached : Option String) : Except Refusal Options :=
  match options.settle with
  | .error refusal => .error refusal
  | .ok settled =>
      match attached with
      | none => .ok { settled with pending := some ⟨setting, none⟩ }
      | some value => settled.accept setting (some value)

/-- Read a switch. -/
def readSwitch (options : Options) (switch : Switch) : Except Refusal Options :=
  match options.settle with
  | .error refusal => .error refusal
  | .ok settled => settled.turnOn switch

/-- Read a long option. -/
def readLong
    (vocabulary : Vocabulary)
    (options : Options)
    (name : String)
    (attached : Option String) : Except Refusal Options :=
  match vocabulary.long? name, attached with
  | none, _ => .error .unexpectedWord
  | some (.setting setting), _ => options.readSetting setting attached
  | some (.switch _), some _ => .error .unwantedValue
  | some (.switch switch), none => options.readSwitch switch

/-- The value that stands behind the letter of a setting. -/
def attachedValue? : List Char → Option String
  | [] => none
  | '=' :: value => some (String.ofList value)
  | value => some (String.ofList value)

/-- Read a bundle of short options. -/
def readShort (vocabulary : Vocabulary) (options : Options) :
    List Char → Except Refusal Options
  | [] => .ok options
  | letter :: letters =>
      match vocabulary.short? letter with
      | none => .error .unexpectedWord
      | some (.setting setting) =>
          options.readSetting setting (attachedValue? letters)
      | some (.switch switch) =>
          match options.readSwitch switch with
          | .error refusal => .error refusal
          | .ok next => readShort vocabulary next letters

/-- Give an ordinary word to the setting that waits for a value. -/
def supply? (options : Options) (text : String) : Option Options :=
  match options.pending with
  | some ⟨setting, none⟩ =>
      some { options with pending := some ⟨setting, some text⟩ }
  | _ => none

end Options

/-- Where the options of a command line end. -/
inductive Ending
  /-- At the end of the words. -/
  | finished
  /-- At the separator, with the words behind it. -/
  | separated (words : List String)
  /-- At an ordinary word that is no value, with the words behind it. -/
  | atWord (text : String) (words : List String)
  deriving DecidableEq

namespace Options

/-- Read options as far as they go. The last setting may still be waiting. -/
def read (vocabulary : Vocabulary) (options : Options) :
    List String → Except Refusal (Options × Ending)
  | [] => .ok (options, .finished)
  | word :: words =>
      match Word.ofString word with
      | .separator => .ok (options, .separated words)
      | .long name attached =>
          match options.readLong vocabulary name attached with
          | .error refusal => .error refusal
          | .ok next => read vocabulary next words
      | .short letters =>
          match options.readShort vocabulary letters with
          | .error refusal => .error refusal
          | .ok next => read vocabulary next words
      | .plain text =>
          match options.supply? text with
          | some next => read vocabulary next words
          | none => .ok (options, .atWord text words)

end Options
end Command
end EnvTags
