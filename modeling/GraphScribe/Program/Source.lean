import GraphScribe.Program.Fragment
import GraphScribe.Program.Plan
import GraphScribe.Program.Writer

/-!
# Program source

A plan as a program: the import line, the bootstrap fragment, one function for each step, and the
assembly of the graph. Two empty lines stand between these sections. Equal plans give equal source.
-/

namespace GraphScribe

/-! ## Fixed sections -/

/-- The lines that every program starts with. -/
def preamble : List Text := ["from langgraph.graph import StateGraph, START, END".toList]

/-- The lines of the bootstrap fragment that is used when none is given. -/
def bootstrapLines : List String := [
  "from typing import Annotated",
  "",
  "from typing_extensions import TypedDict",
  "",
  "from langgraph.graph.message import add_messages",
  "from langchain.chat_models import init_chat_model",
  "",
  "llm = init_chat_model(\"openai:gpt-4.1\")",
  "",
  "",
  "class State(TypedDict):",
  "    messages: Annotated[list, add_messages]"]

/-- The bootstrap fragment that is used when none is given. -/
def defaultBootstrap : Text := bootstrapLines.flatMap fun line => line.toList ++ ['\n']

def construction : Text := "graph_builder = StateGraph(State)".toList

def finalization : Text := "graph = graph_builder.compile()".toList

/-! ## Nodes -/

def PlannedNode.isStep (n : PlannedNode) : Bool := n.type == stepType

def functionHeader (function : Text) : Text :=
  "def ".toList ++ function ++ "(state: State):".toList

/-- The statement that registers a step's function. -/
def registration (name function : Text) : Text :=
  "graph_builder.add_node(".toList ++ quoted name ++ ", ".toList ++ function ++ [')']

def connection (e : PlannedEdge) : Text :=
  "graph_builder.add_edge(".toList ++ e.source ++ ", ".toList ++ e.target ++ [')']

/-- The statements that register a node: one for a step, none for any other node. -/
def PlannedNode.registrations (n : PlannedNode) : List Text :=
  if n.isStep then [registration n.name n.function] else []

namespace Writer

/-- Writes the function of a step; nothing for any other node. -/
def function (w : Writer) (n : PlannedNode) : Writer :=
  if n.isStep then
    ((w.line (functionHeader n.function)).push.extend (functionBody n.name n.code)).pop
  else w

/-- Writes the registration of a step; nothing for any other node. -/
def register (w : Writer) (n : PlannedNode) : Writer := w.extend n.registrations

end Writer

/-! ## Sections -/

/-- The lines of a bootstrap fragment, without the line feeds around it. -/
def bootstrapSection (bootstrap : Text) : List Text := Text.lines (trimBy (· == '\n') bootstrap)

/-- The lines of a node's function, if it has one, and two empty lines. -/
def functionBlock (n : PlannedNode) : List Text := (((Writer.start 0).function n).blank 2).lines

/-- The functions of a plan, each followed by two empty lines. -/
def functionSection (plan : Plan) : List Text := plan.nodes.flatMap functionBlock

def assemblySection (plan : Plan) : List Text :=
  let registrations := plan.nodes.flatMap PlannedNode.registrations
  let built := ((Writer.start 0).line construction).extend registrations
  -- no edges, no gap for them
  let spaced := if plan.edges.isEmpty then built else built.blank 1
  let connected := spaced.extend (plan.edges.map connection)
  ((connected.blank 1).line finalization).lines

/-- A further section after some lines, with two empty lines before it unless it is empty or an
empty line comes before it anyway. -/
def addSection (lines section' : List Text) : List Text :=
  match section', lines.getLast? with
  -- something to add, and a line with text to set it off from
  | _ :: _, some (_ :: _) => lines ++ [[], []] ++ section'
  | _, _ => lines ++ section'

def Plan.sourceLines (plan : Plan) (bootstrap : Text) : List Text :=
  [preamble, bootstrapSection bootstrap, functionSection plan, assemblySection plan].foldl
    addSection []

/-- The text of a program: its lines, each with its line feed. -/
def Plan.source (plan : Plan) (bootstrap : Option Text) : Text :=
  joinWith ['\n'] (plan.sourceLines (bootstrap.getD defaultBootstrap)) ++ ['\n']

/-! ## From graphs -/

def Graph.source (g : Graph) (bootstrap : Option Text) : Except Rejection Text := do
  let plan ← Plan.ofGraph g
  return plan.source bootstrap

end GraphScribe
