import DirectiveLint.Command
import DirectiveLint.Configuration.Words
import DirectiveLint.Language.Scanners

/-!
# The program

Runs a command line on the file system of the machine.  What the command is given, it is given as a
value: the paths that the command line names are looked up first, with everything below those that
are directories, and `Command.runLine` then decides what is printed and how the run ends.

Below a directory, only source files are opened: the others are never read, so their content is
left empty.  Links to directories are not followed there, so a loop of links ends.
-/

namespace DirectiveLint.Program

def withDirectory (fs : FileSystem) (parts : List String) : FileSystem :=
  { fs with directories := parts :: fs.directories }

partial def addBelow (fs : FileSystem) (parts : List String) (text : String) : IO FileSystem := do
  let mut fs := fs
  for item in ← ((← IO.currentDir) / text).readDir do
    let name := item.fileName
    let inner := parts ++ [name]
    let innerText := text ++ "/" ++ name
    let isLink := (← item.path.symlinkMetadata).type == .symlink
    if ← item.path.isDir then
      fs := withDirectory fs inner
      if !isLink then fs ← addBelow fs inner innerText
    else if ← item.path.pathExists then
      let isSource := Language.hasSourceSuffix (FilePath.ofString name)
      let bytes ← if isSource then IO.FS.readBinFile innerText else pure .empty
      fs := fs.putFile inner bytes.toList
  return fs

/-- Adds what a path leads to, and what it goes through on the way.  What is below it is added if
`deep` says so. -/
def addPath (deep : Bool) (fs : FileSystem) (path : FilePath) : IO FileSystem := do
  let start := fs.start path
  let mut fs := fs
  for n in List.range (path.parts.length + 1) do
    let leading : FilePath := ⟨path.root, path.parts.take n⟩
    let parts := leading.parts.foldl FileSystem.stepTo start
    let text := leading.render
    let place := (← IO.currentDir) / text
    if ← place.isDir then
      fs := withDirectory fs parts
      if deep && n == path.parts.length then fs ← addBelow fs parts text
    else if ← place.pathExists then
      fs := fs.putFile parts (← IO.FS.readBinFile text).toList
  return fs

/-- Adds what a command looks at: the paths it is given, and then the file of its settings.  What is
added last is found first, so the settings have their content even if they are below a path. -/
def addCommand (fs : FileSystem) (command : Command) : IO FileSystem := do
  match command.action with
  | .lint options => do addPath false (← options.paths.foldlM (addPath true) fs) options.config
  | .directives paths => paths.foldlM (addPath true) fs

/-- The part of the machine's file system that a command line looks at. -/
def fileSystem (words : List String) : IO FileSystem := do
  let here := (FilePath.ofString (← IO.currentDir).toString).parts
  let fs : FileSystem := { directories := [here], workingDirectory := here }
  match Arguments.read words with
  | .error _ => return fs
  | .ok command => addCommand fs command

/-- What is told about a run that broke off. -/
def abortion (words : List String) (outcome : Outcome) : String :=
  match outcome.ending, Arguments.read words with
  | .aborted (.configuration (.unreadable failure)), _ | .aborted (.refusal failure), _ =>
    "Error: " ++ failure.message ++ "\n"
  | .aborted (.configuration fault), .ok ⟨_, .lint options⟩ =>
    "Error: cannot be used: " ++ fault.message options.config ++ "\n"
  | _, _ => ""

end DirectiveLint.Program

/-- Runs the command line and ends with its exit code. -/
def main (words : List String) : IO UInt32 := do
  let outcome := DirectiveLint.Command.runLine (← DirectiveLint.Program.fileSystem words) words
  (← IO.getStdout).putStr outcome.stdout
  (← IO.getStderr).putStr (outcome.stderr ++ DirectiveLint.Program.abortion words outcome)
  return UInt32.ofNat outcome.exitCode
