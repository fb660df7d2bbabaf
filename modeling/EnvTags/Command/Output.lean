import EnvTags.Command.Report

/-!
# Output of the command

Variables and confirmations go to the standard output. What is said about the
work goes to the standard error, and only when more is asked for. Some words are
highlighted when the output is coloured.
-/

namespace EnvTags
namespace Command

/-- A way to highlight words. -/
inductive Highlight
  /-- Green, for success. -/
  | green
  /-- Bold. -/
  | bold
  /-- Bold and yellow, for warnings. -/
  | boldYellow
  deriving DecidableEq

namespace Highlight

/-- The mark that starts a highlighting. -/
def start : Highlight → List Char
  | green => "\x1b[32m".toList
  | bold => "\x1b[1m".toList
  | boldYellow => "\x1b[1;33m".toList

/-- The mark that ends all highlighting. -/
def reset : List Char := "\x1b[0m".toList

/-- A text in which the highlighting starts again wherever the text ends it. -/
def resumed (highlight : Highlight) : List Char → List Char
  | '\x1b' :: '[' :: '0' :: 'm' :: rest =>
      reset ++ highlight.start ++ resumed highlight rest
  | c :: rest => c :: resumed highlight rest
  | [] => []

/-- Some words, highlighted when the output is coloured. -/
def paint (highlight : Highlight) (inColor : Bool) (text : String) : String :=
  if inColor then
    String.ofList (highlight.start ++ highlight.resumed text.toList ++ reset)
  else text

end Highlight

/-- What is written to the two channels. -/
structure Output where
  /-- The standard output. -/
  standard : String := ""
  /-- The standard error. -/
  errors : String := ""
  deriving DecidableEq

/-- The mark of success. -/
def successMark (inColor : Bool) : String :=
  Highlight.green.paint inColor "✓"

/-- The line for a field that was left out. -/
def warningLine (inColor : Bool) (diagnostic : Diagnostic) : String :=
  Highlight.boldYellow.paint inColor "warning:" ++ " " ++ diagnostic.text ++ "\n"

/-- The line with the numbers of an analysis. -/
def summaryLine (inColor : Bool) (analysis : Analysis) : String :=
  successMark inColor ++ " " ++
    Highlight.bold.paint inColor analysis.modulePath ++ ": " ++
    toString analysis.entries.length ++ " variable(s) from " ++
    toString analysis.rootCount ++ " root(s), " ++
    toString analysis.filesScanned ++ " file(s) scanned, " ++
    toString analysis.directoriesScanned ++ " dependency dir(s) read\n"

/-- What a printing says about its work. -/
def Printing.notes (printing : Printing) (inColor : Bool) : String :=
  (if printing.configFromFile then ""
    else "Note: No " ++ Config.fileName ++
      " found, using default configuration\n") ++
  (if printing.moduleCache.isSome then ""
    else "Note: no module cache found (set GOMODCACHE or GOPATH)\n") ++
  String.join (printing.analysis.diagnostics.map (warningLine inColor)) ++
  summaryLine inColor printing.analysis

/-- The output for a report. -/
def Report.output (report : Report) (inColor verbose : Bool) : Output :=
  match report with
  | printed printing =>
      { standard := Variable.render printing.analysis.entries
        errors := if verbose then printing.notes inColor else "" }
  | created file =>
      { standard := successMark inColor ++ " Created " ++ file.text ++ "\n" }

/-- How a process ends. -/
structure Exit where
  /-- The exit status. -/
  status : Nat
  /-- What it has written. -/
  output : Output
  deriving DecidableEq

/-- The name of the command. -/
def name : String := "goprintenv"

/-- The version of the command. -/
def version : String := "0.1.0"

/-- How the command may be called. -/
def usage : String :=
  "Usage: " ++ name ++
    " [-p PATH] [-v] [--gomodcache PATH] [--gopath LIST]\n" ++
  "       " ++ name ++ " init [-p PATH]\n"

/-- The words for a refusal that is a fault. -/
def Refusal.text : Refusal → String
  | badValue => "a value is missing or not valid"
  | conflict => "these arguments cannot be used together"
  | unwantedValue => "a value is given to an option without values"
  | unexpectedWord => "unexpected argument"
  | unknownCommand => "unrecognized subcommand"
  | helpWanted => "help"
  | versionWanted => "version"

/-- How the command ends when it is refused work. Help and version are no
faults. -/
def Refusal.exit (refusal : Refusal) : Exit :=
  match refusal with
  | helpWanted => ⟨0, { standard := usage }⟩
  | versionWanted => ⟨0, { standard := name ++ " " ++ version ++ "\n" }⟩
  | fault => ⟨2, { errors := "error: " ++ fault.text ++ "\n\n" ++ usage }⟩

/-- How the command ends when it fails. -/
def Failure.exit (failure : Failure) : Exit :=
  ⟨2, { errors := "Error: " ++ failure.fullMessage ++ "\n" }⟩

/-- How the command ends for the result of its work. -/
def exitFor
    (inColor verbose : Bool)
    (result : Except Failure Report) : Exit :=
  match result with
  | .error failure => failure.exit
  | .ok report => ⟨0, report.output inColor verbose⟩

/-- Carry out a command line. -/
def execute
    (system : FileSystem)
    (environment : Environment)
    (inColor : Bool)
    (words : List String) : Exit × FileSystem :=
  match Arguments.ofWords environment words with
  | .error refusal => (refusal.exit, system)
  | .ok arguments =>
      let (result, next) := run system arguments
      (exitFor inColor arguments.verbose result, next)

end Command
end EnvTags
