import GraphScribe.Generator
import GraphScribe.Graph.Canonical
import GraphScribe.Settings.Basic

/-!
# The service

From a JSON graph to a program: the graph is made canonical first, and only then handed to a
*backend*, which writes the program. A rejected graph never reaches a backend.
-/

namespace GraphScribe

/-! ## Backends -/

/-- Something that writes a program for a graph, or nothing. -/
structure Backend where
  name : Text
  write : Graph → Run (Option Text)

namespace Backend

/-- The library itself, with a bootstrap fragment of the caller's or the usual one. -/
def structural (bootstrap : Option Text) : Backend where
  name := "compiler".toList
  write g := Run.ofExcept ((g.source bootstrap).map some |>.mapError .rejected)

def chat (generator : Generator) : Backend where
  name := "llm".toList
  write g := some <$> generator.generate g

/-- A backend that gives the same outcome for every graph. -/
def fixed (name : Text) (outcome : Except Failure (Option Text)) : Backend where
  name := name
  write _ := Run.ofExcept outcome

end Backend

inductive BackendChoice where
  | structural
  | chat (apiKey model : Text) (timeout : Binary64) (maxRetries : Nat)
  deriving DecidableEq

namespace BackendChoice

/-- The backend that the settings ask for. A chat model needs a credential. -/
def ofSettings (s : Settings) : Except ConfigurationFault BackendChoice :=
  match s.strategy with
  | .compiler => .ok .structural
  | .llm =>
    match s.apiKey with
    | some key => .ok (.chat key s.model s.timeout s.maxRetries)
    | none => .error .missingCredential

/-- The backend itself, given the chat model behind the connection. -/
def backend (service : ChatService) : BackendChoice → Backend
  | .structural => .structural none
  | .chat _ model timeout _ => .chat ⟨model, timeout, service⟩

end BackendChoice

/-! ## Programs -/

/-- The program that a backend writes for a canonical graph. A program without any visible character
counts as none. -/
def writeProgram (backend : Backend) (g : Graph) : Run Text := do
  Run.log .info "flowgraph.service"
    s!"Transpiling graph with {String.ofList backend.name} backend {Generator.sizeInWords g}"
  Run.tell (.asked g)
  let written ← backend.write g
  -- nothing at all and nothing visible are the same fault
  let code := written.getD []
  if Text.isBlank code then Run.fail (.generation (.noCode backend.name))
  else return code

/-- The program that a backend writes for a JSON graph. -/
def transpile (strict : Bool) (backend : Backend) (value : Json) : Run Text := do
  let g ← canonical strict value
  writeProgram backend g

/-- The program that the library itself writes for a JSON graph. -/
def compile (strict : Bool) (bootstrap : Option Text) (value : Json) : Run Text := do
  let g ← canonical strict value
  Run.ofExcept ((g.source bootstrap).mapError .rejected)

end GraphScribe
