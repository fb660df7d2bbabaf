import EnvTags.Command.Output

/-!
# The command

The command takes its words and its environment from the process, reads the
trees that it may look at, and leaves all decisions to the library.
-/

namespace EnvTags
namespace Main

open Command

/-- The names that lead to a place when one starts from some names. -/
def namesFrom (start : List Name) (pieces : List Name) : List Name :=
  pieces.foldl
    (fun names piece =>
      if Path.isSilent piece then names
      else if piece = ".." then names.dropLast
      else names ++ [piece])
    start

/-- The names that lead to a path from the root. -/
def namesOf (workingDirectory : List Name) (path : Path) : List Name :=
  if path.isAbsolute then namesFrom [] path.tail
  else namesFrom workingDirectory path.pieces

/-- Whether the content of a file may matter, and not only its name. -/
def mayBeRead (name : String) : Bool :=
  name == Manifest.fileName || name == Config.fileName ||
    Path.extension? name == some "go"

/-- Read a file or a whole directory. -/
partial def readEntry (place name : String) : IO Entry := do
  let here ← IO.currentDir
  if ← (here / place).isDir then
    let listed ← (here / place).readDir
    let entries ← listed.toList.mapM fun item => do
      let inner ← readEntry (place ++ "/" ++ item.fileName) item.fileName
      return (Name.text item.fileName, inner)
    return .directory entries
  else if mayBeRead name then
    let raw ← IO.FS.readBinFile place
    return .file (Content.ofBytes raw.toList)
  else
    return .file (.text "")

/-- Add what has a path to a file system. -/
def addPath (system : FileSystem) (path : Path) : IO FileSystem := do
  let here ← IO.currentDir
  if ← (here / path.text).pathExists then
    let inner ← readEntry path.text ((path.fileName?.map Name.read).getD "")
    let names := namesOf system.workingDirectory path
    return { system with root := Entry.put inner names system.root }
  else
    return system

/-- Add the mark of version control in a directory to a file system. -/
def addBoundary (system : FileSystem) (directory : Path) : IO FileSystem := do
  let here ← IO.currentDir
  let path := directory.child Config.boundaryName
  if ← (here / path.text).pathExists then
    let names := namesOf system.workingDirectory path
    return { system with root := Entry.makeDirectory names system.root }
  else
    return system

/-- The places where the module cache may be. -/
def cachePlaces (arguments : Arguments) : List Path :=
  arguments.moduleCache.toList ++
    ((arguments.searchPath.map (Text.parts ':')).getD []).map fun part =>
      ((Path.ofString part).child "pkg").child "mod"

/-- The part of the files that matters for some arguments. -/
def readSystem (arguments : Arguments) : IO FileSystem := do
  let here ← IO.currentDir
  let workingDirectory :=
    (here.components.filter fun name => name != "").map Name.text
  let mut system : FileSystem :=
    ⟨Entry.makeDirectory workingDirectory (.directory []), workingDirectory⟩
  match arguments.createIn with
  | some directory => addPath system directory
  | none =>
      for place in cachePlaces arguments do
        system ← addPath system place
      system ← addPath system arguments.path
      for directory in arguments.path.ancestors do
        system ← addPath system (directory.child Config.fileName)
        system ← addBoundary system directory
      return system

/-- Write the file that a report says was created. -/
def keep (report : Report) : IO Unit :=
  match report with
  | .created file => IO.FS.writeFile file.text (Config.write {})
  | .printed _ => pure ()

/-- Whether the output is coloured: the variables of the environment decide, else
whether the output goes to a terminal. -/
def wantsColor
    (isTerminal : Bool)
    (allowed forced forbidden : Option String) : Bool :=
  if forced.isSome && forced != some "0" then true
  else if forbidden.isSome then false
  else isTerminal && allowed != some "0"

/-- Whether the output of this process is coloured. -/
def isInColor : IO Bool := do
  let isTerminal ← (← IO.getStdout).isTty
  return wantsColor isTerminal (← IO.getEnv "CLICOLOR")
    (← IO.getEnv "CLICOLOR_FORCE") (← IO.getEnv "NO_COLOR")

/-- Carry out what is asked for. -/
def perform (arguments : Arguments) : IO Exit := do
  let system ← readSystem arguments
  let result := (run system arguments).1
  if let .ok report := result then keep report
  return exitFor (← isInColor) arguments.verbose result

/-- Carry out a command line and answer the exit status. -/
def runProcess (words : List String) : IO UInt32 := do
  let environment : Environment :=
    ⟨← IO.getEnv "GOMODCACHE", ← IO.getEnv "GOPATH"⟩
  let exit ←
    match Arguments.ofWords environment words with
    | .error refusal => pure refusal.exit
    | .ok arguments => perform arguments
  IO.print exit.output.standard
  IO.eprint exit.output.errors
  return UInt32.ofNat exit.status

end Main
end EnvTags

/-- The command line of the program. -/
def main (words : List String) : IO UInt32 :=
  EnvTags.Main.runProcess words
