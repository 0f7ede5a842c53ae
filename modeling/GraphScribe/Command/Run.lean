import GraphScribe.Command.Arguments
import GraphScribe.Command.FileTree
import GraphScribe.Graph.Document
import GraphScribe.Service

/-!
# The command

One run of the command as a function of the files, the environment and the arguments: what it
prints, the files afterwards, and how it ends. A run that ends with an error has written no file and
printed nothing but its error messages; at most it has made a directory for its program.
-/

namespace GraphScribe.Command

/-- What a run of the command has around it: the files, the environment variables, a backend that
takes the place of the configured one if there is one, and the chat model behind the connection. -/
structure World where
  files : FileTree
  environment : Environment
  backend : Option Backend
  service : ChatService

/-- The end of a run: its exit status or the failure that ended it, what it printed, the files
afterwards, and the events on the way. -/
structure Finished where
  exit : Except Failure Nat
  stdout : String
  stderr : String
  files : FileTree
  events : List Event

/-! ## Steps -/

def errorLine (message : String) : String := s!"[error] {message}\n"

/-- A line that tells how far the run has come. -/
def progressLine (name value : String) : String := s!"[compile_from_json] {name} : {value}\n"

/-- The lines that tell what is going to be done. -/
def progress (target : Option Strategy) (g : Graph) : String :=
  progressLine "target" ((target.map Strategy.name).getD "[]")
    ++ progressLine "nodes " (toString g.nodes.length)
    ++ progressLine "edges " (toString g.edges.length)

def failureRecord : Record := ⟨.debug, "flowgraph.compile_from_json", "Generation failed"⟩

/-- The backend of a run with the given target; without one it is the library itself. -/
def backendFor (world : World) (settings : Settings) (target : Option Strategy) : Except Failure Backend :=
  match world.backend with
  | some backend => .ok backend
  | none =>
    ((BackendChoice.ofSettings { settings with strategy := target.getD .compiler }).map
      (BackendChoice.backend world.service)).mapError .misconfigured

def generate (world : World) (settings : Settings) (target : Option Strategy) (g : Graph) : Run Text := do
  let backend ← Run.ofExcept (backendFor world settings target)
  writeProgram backend g

/-- The end of a run in which nothing was done but printing error messages. -/
def refused (world : World) (status : Nat) (stderr : String) : Finished :=
  ⟨.ok status, "", stderr, world.files, []⟩

/-- The end of a run whose program is printed or written to its file. -/
def deliver (world : World) (options : Options) (input : Path) (stderr : String)
    (events : List Event) (source : Text) : Finished :=
  if options.print then ⟨.ok 0, String.ofList source, stderr, world.files, events⟩
  else match options.out with
    | none => ⟨.error .pathMissing, "", stderr, world.files, events⟩
    | some out =>
      let directory := Path.ofText out
      let name := Path.programFileName (Path.stemOf input.lastName)
      match world.files.writeInto directory name (Utf8.encode source) with
      | (files, .error failure) => ⟨.error failure, "", stderr, files, events⟩
      | (files, .ok ()) =>
        let written := String.ofList (directory.child name).toText
        ⟨.ok 0, "", stderr ++ progressLine "wrote " written, files, events⟩

/-- The end of a run after its graph has been accepted. -/
def runGraph (world : World) (options : Options) (settings : Settings) (input : Path)
    (events : List Event) (g : Graph) : Finished :=
  if options.canonical then
    ⟨.ok 0, String.ofList (RawText.text g.toJson.indented ++ ['\n']), "", world.files, events⟩
  else
    let stderr := progress options.target g
    let run := generate world settings options.target g
    let events := events ++ run.events
    match run.outcome with
    | .ok source => deliver world options input stderr events source
    | .error (.misconfigured fault) =>
      ⟨.ok 1, "", stderr ++ errorLine s!"Configuration: {fault.message}", world.files, events⟩
    | .error (.generation fault) =>
      ⟨.ok 1, "", stderr ++ errorLine s!"Generation failed: {fault.message}", world.files,
        events ++ [.logged failureRecord]⟩
    | .error failure => ⟨.error failure, "", stderr, world.files, events⟩

/-- The end of a run whose graph file holds the given octets. -/
def runFile (world : World) (options : Options) (settings : Settings) (input : Path)
    (octets : List UInt8) : Finished :=
  let read := canonicalFile options.strict octets
  match read.outcome with
  | .ok g => runGraph world options settings input read.events g
  | .error (.unreadable (.departure wanted position line column)) =>
    let words := (Json.Fault.departure wanted position line column).message
    ⟨.ok 1, "", errorLine s!"Invalid JSON: {words}", world.files, read.events⟩
  | .error (.rejected rejection) =>
    ⟨.ok 1, "", errorLine s!"Graph validation failed: {rejection.message}", world.files,
      read.events⟩
  | .error failure => ⟨.error failure, "", "", world.files, read.events⟩

/-- The end of a run with accepted arguments. -/
def runOptions (world : World) (options : Options) : Finished :=
  match Settings.ofEnvironment world.environment with
  | .error fault => refused world 1 (errorLine fault.message)
  | .ok settings =>
    let input := Path.ofText options.file
    if world.files.isTooLong input then
      { refused world 1 "" with exit := .error (.path .tooLong input.toText) }
    else match world.files.entry? input with
    | none => refused world 1 (errorLine s!"File not found: {String.ofList input.toText}")
    | some .directory =>
      { refused world 1 "" with exit := .error (.path .isDirectory input.toText) }
    | some (.file octets) => runFile world options settings input octets

def run (world : World) (arguments : List Text) : Finished :=
  match parse arguments with
  | .ok options => runOptions world options
  | .error .help => { refused world 0 "" with stdout := String.ofList help }
  | .error refusal =>
    refused world 2 (String.ofList usage ++ s!"{programName}: error: {refusal.message}\n")

end GraphScribe.Command
