import GraphScribe.Command.Run
import GraphScribe.Settings.EnvFile

/-!
# The program

The command as a program: it gathers the environment variables and the files that a run can look at,
lets `Command.run` decide everything, and then prints what the run printed, makes the directories that
the run made and writes the files that it changed. No chat model is within reach of the program, so
that a request to one fails.
-/

namespace GraphScribe

/-- The octets of a file, if it can be read. -/
def readOctets? (name : String) : IO (Option (List UInt8)) := do
  try
    return some (← IO.FS.readBinFile name).toList
  catch _ => return none

/-- Is there a directory of this name? -/
def isDirectoryName (name : String) : IO Bool := do
  try
    let _ ← IO.FS.realPath (name ++ "/.")
    return true
  catch _ => return false

/-- The name under which the system knows a place of a file tree. -/
def systemName (place : List Text) : String :=
  match place with
  | ['/'] :: rest => String.ofList ('/' :: joinWith ['/'] rest)
  | _ => String.ofList (joinWith ['/'] place)

/-- The part of the file tree that a path leads through. -/
def gather (tree : FileTree) (path : Path) : IO FileTree := do
  let mut tree := tree
  let mut place := FileTree.origin path
  for name in path.names do
    if name = FileTree.parentName then
      place := FileTree.above place
    else
      place := place ++ [name]
      if ← isDirectoryName (systemName place) then
        tree := tree.addDirectory place
      else if let some octets ← readOctets? (systemName place) then
        tree := tree.put place octets
  return tree

/-- The variables with the given names that are in the environment. -/
def gatherVariables (names : List String) : IO Environment :=
  names.filterMapM fun name => do
    return (← IO.getEnv name).map fun value => (name.toList, value.toList)

/-- The environment variables that the settings are read from, and those that the file beside them
adds. -/
def gatherEnvironment : IO (Except VariableFault Environment) := do
  match (← readOctets? ".env").map (Utf8.decode .strict) with
  | some (.ok raw) =>
    let file := RawText.text raw
    let referred := (EnvFile.referredNames file).map String.ofList
    return EnvFile.extend (← gatherVariables (Settings.variableNames ++ referred)) file
  | _ => return .ok (← gatherVariables Settings.variableNames)

/-- The files that a run with the given arguments can look at. -/
def gatherFiles (arguments : List Text) : IO FileTree := do
  let tree : FileTree := ⟨[], []⟩
  match Command.parse arguments with
  | .error _ => return tree
  | .ok options =>
    let input := Path.ofText options.file
    let directory := Path.ofText (options.out.getD [])
    let tree ← gather tree input
    let tree ← gather tree directory
    gather tree (directory.child (Path.programFileName (Path.stemOf input.lastName)))

/-- Makes the directories and writes the files that are not the same in an earlier tree. -/
def writeChanges (tree earlier : FileTree) : IO Unit := do
  for place in tree.directories do
    if !earlier.isDirectory place then IO.FS.createDirAll (systemName place)
  for (place, octets) in tree.changedSince earlier do
    IO.FS.writeBinFile (systemName place) ⟨octets.toArray⟩

end GraphScribe

open GraphScribe in
/-- Runs the command with the arguments given to the program. -/
def main (arguments : List String) : IO UInt32 := do
  match ← gatherEnvironment with
  | .error fault =>
    IO.eprintln fault.message
    return 1
  | .ok environment =>
    let arguments := arguments.map String.toList
    let world : Command.World := {
      files := ← gatherFiles arguments
      environment := environment
      backend := none
      service := fun _ => .failed "Connection error.".toList }
    let finished := Command.run world arguments
    IO.eprint finished.stderr
    IO.print finished.stdout
    writeChanges finished.files world.files
    match finished.exit with
    | .ok status => return UInt32.ofNat status
    | .error failure =>
      IO.eprintln failure.message
      return 1
