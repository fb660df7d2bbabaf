import EnvTags.Command.Options
import EnvTags.Path

/-!
# Arguments of the command

Without a command word the variables of a project are printed. The command `init`
creates a configuration file instead, and `help` shows help. Options of the
printing exclude a command word. The environment gives a module cache and a
search path when the options do not.
-/

namespace EnvTags
namespace Command

/-- The options of the printing. -/
def printVocabulary : Vocabulary where
  long? name :=
    if name = "path" then some (.setting .path)
    else if name = "verbose" then some (.switch .verbose)
    else if name = "gomodcache" then some (.setting .moduleCache)
    else if name = "gopath" then some (.setting .searchPath)
    else if name = "help" then some (.switch .help)
    else if name = "version" then some (.switch .version)
    else none
  short? letter :=
    if letter = 'p' then some (.setting .path)
    else if letter = 'v' then some (.switch .verbose)
    else if letter = 'h' then some (.switch .help)
    else if letter = 'V' then some (.switch .version)
    else none

/-- The options of `init`. -/
def initVocabulary : Vocabulary where
  long? name :=
    if name = "path" then some (.setting .path)
    else if name = "help" then some (.switch .help)
    else none
  short? letter :=
    if letter = 'p' then some (.setting .path)
    else if letter = 'h' then some (.switch .help)
    else none

/-- The word for the creation of a configuration file. -/
def initWord : String := "init"

/-- The word for help. -/
def helpWord : String := "help"

/-- The commands. -/
def commandWords : List String := [initWord, helpWord]

/-- The variables of the environment that matter. -/
structure Environment where
  /-- The module cache. -/
  moduleCache : Option String := none
  /-- The search path for workspaces. -/
  searchPath : Option String := none
  deriving DecidableEq

/-- What the command is asked to do. -/
structure Arguments where
  /-- The directory in which a configuration file is created, in place of the
  printing. -/
  createIn : Option Path := none
  /-- The project whose variables are printed. -/
  path : Path := Path.ofString "."
  /-- Whether the printing says more. -/
  verbose : Bool := false
  /-- The module cache. -/
  moduleCache : Option Path := none
  /-- The search path for workspaces. -/
  searchPath : Option String := none
  deriving DecidableEq

/-- The directory that options name, else the working directory. -/
def Options.directory (options : Options) : Path :=
  Path.ofString ((options.value? .path).getD ".")

/-- The options of `init` from the words behind it, which are options only. -/
def readInit (words : List String) : Except Refusal Options :=
  match Options.read initVocabulary {} words with
  | .error refusal => .error refusal
  | .ok (options, .finished) => options.settle
  | .ok (options, .separated []) => options.settle
  | .ok _ => .error .unexpectedWord

/-- What is answered when help is asked for on the commands that some words
name. Commands have no commands of their own. -/
def helpOn : List String → Refusal
  | [] => .helpWanted
  | [word] => if word ∈ commandWords then .helpWanted else .unknownCommand
  | _ :: _ :: _ => .unknownCommand

/-- A setting from the options, else from the environment. -/
def Options.valueOr
    (options : Options)
    (setting : Setting)
    (inherited : Option String) : Except Refusal (Option String) :=
  match options.value? setting, inherited with
  | some value, _ => .ok (some value)
  | none, none => .ok none
  | none, some value =>
      if setting.accepts value then .ok (some value) else .error .badValue

namespace Arguments

/-- The arguments that options of the printing give in an environment. -/
def ofOptions (environment : Environment) (options : Options) :
    Except Refusal Arguments :=
  match options.valueOr .moduleCache environment.moduleCache with
  | .error refusal => .error refusal
  | .ok moduleCache =>
      match options.valueOr .searchPath environment.searchPath with
      | .error refusal => .error refusal
      | .ok searchPath =>
          .ok { path := options.directory
                verbose := options.has .verbose
                moduleCache := moduleCache.map Path.ofString
                searchPath := searchPath }

/-- The arguments of a printing whose options have been read. -/
def ofPrint (environment : Environment) (options : Options) :
    Except Refusal Arguments :=
  match options.settle with
  | .error refusal => .error refusal
  | .ok settled => ofOptions environment settled

/-- The arguments of `init` with the words behind it. -/
def ofInit (environment : Environment) (words : List String) :
    Except Refusal Arguments :=
  match readInit words with
  | .error refusal => .error refusal
  | .ok options =>
      match ofOptions environment {} with
      | .error refusal => .error refusal
      | .ok arguments => .ok { arguments with createIn := some options.directory }

/-- The arguments that the words of a command line give in an environment. -/
def ofWords (environment : Environment) (words : List String) :
    Except Refusal Arguments :=
  match Options.read printVocabulary {} words with
  | .error refusal => .error refusal
  | .ok (options, .finished) => ofPrint environment options
  | .ok (options, .separated []) => ofPrint environment options
  | .ok (_, .separated (word :: _)) =>
      if word ∈ commandWords then .error .unexpectedWord
      else .error .unknownCommand
  | .ok (options, .atWord word others) =>
      if word = helpWord then .error (helpOn others)
      else if word ≠ initWord then .error .unknownCommand
      else if options.isEmpty then ofInit environment others
      else .error .conflict

end Arguments
end Command
end EnvTags
