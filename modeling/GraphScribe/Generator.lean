import GraphScribe.Prompt
import GraphScribe.Reply
import GraphScribe.Run

/-!
# Generation by a chat model

One request to a chat model, and what becomes of its completion. Whatever a completion lacks, only
the first choice counts; and whatever goes wrong, short of a cancellation, is a failed generation.
-/

namespace GraphScribe

/-- A choice of a completion: it may lack its message, and the message its content. -/
inductive Choice where
  | message (content : Option Text)
  | noMessage
  deriving DecidableEq

/-- What comes of a request: a completion, which may lack its choices, or an error. -/
inductive ChatReply where
  | completion (choices : List Choice)
  | failed (words : Text)
  | timedOut
  | cancelled
  deriving DecidableEq

/-- A chat model at the other end of a connection. -/
abbrev ChatService := ChatRequest → ChatReply

/-- A chat model, and how long a reply may take. -/
structure Generator where
  model : Text
  timeout : Binary64
  service : ChatService

/-- The name of the chat model that is used when none is given. -/
def defaultModel : Text := "gpt-4.1-mini".toList

namespace Generator

def firstContent : List Choice → Option Text
  | .message content :: _ => content
  | _ => none

def request (generator : Generator) (g : Graph) : ChatRequest :=
  let (system, user) := Prompt.messages g
  ⟨generator.model, 0, system, user⟩

/-- The number of nodes and edges of a graph, in words. -/
def sizeInWords (g : Graph) : String := s!"({g.nodes.length} nodes, {g.edges.length} edges)"

/-- Generates a program. With no time at all nothing is requested. -/
def generate (generator : Generator) (g : Graph) : Run Text := do
  Run.log .info "flowgraph.generator.client"
    s!"Requesting generation from {String.ofList generator.model} {sizeInWords g}"
  -- the deadline has passed before the request could be sent
  if generator.timeout.isAtMostZero then
    Run.fail (.generation (.timedOut generator.timeout))
  else
    let request := generator.request g
    Run.tell (.requested request)
    match generator.service request with
    | .completion choices =>
      Run.ofExcept ((Reply.program (firstContent choices)).mapError .generation)
    | .failed words => Run.fail (.generation (.requestFailed words))
    | .timedOut => Run.fail (.generation (.timedOut generator.timeout))
    | .cancelled => Run.fail .cancelled

end Generator

end GraphScribe
