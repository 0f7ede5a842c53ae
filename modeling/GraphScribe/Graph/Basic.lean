import GraphScribe.Text.Basic

/-!
# Graphs

A graph as the author drew it: nodes in their order, and edges between nodes or from and to the two
markers for the entry and the exit. A node of the type `NODE` is a *step*, which becomes a function
of the program; nodes of any other type are drawn by the editor and not written out.
-/

namespace GraphScribe

/-- A node: its id, its type, the name it is displayed under, and its code. -/
structure Node where
  id : Text
  type : Text
  label : Option Text
  code : Option Text
  deriving DecidableEq, Inhabited

/-- An edge between two ids or markers. -/
structure Edge where
  source : Text
  target : Text
  deriving DecidableEq, Inhabited

/-- Nodes and edges in the author's order. -/
structure Graph where
  nodes : List Node
  edges : List Edge
  deriving DecidableEq, Inhabited

/-! ## Fixed names -/

/-- The type of the nodes that are written out, and the type of a node that names none. -/
def stepType : Text := "NODE".toList

/-- The marker for the entry of the graph. -/
def startMarker : Text := "START".toList

/-- The marker for the exit of the graph. -/
def endMarker : Text := "END".toList

/-- Is the id one of the two markers? -/
def isMarker (id : Text) : Bool := id == startMarker || id == endMarker

/-- The names that a running graph keeps for its own entry and exit. -/
def runtimeNames : List Text := ["__start__".toList, "__end__".toList]

/-! ## Limits -/

def nodeLimit : Nat := 200

def edgeLimit : Nat := 600

/-- The most octets of a graph in its compact JSON form. -/
def octetLimit : Nat := 200000

def idLimit : Nat := 128

/-- The most characters of a type or a label. -/
def nameLimit : Nat := 120

/-- The most characters of a node's code. -/
def codeLimit : Nat := 20000

/-! ## Queries -/

namespace Node

/-- The name of a node: its label if that is not empty, and its id otherwise. -/
def name (n : Node) : Text :=
  match n.label with
  | some (c :: rest) => c :: rest
  | _ => n.id

/-- Is the node written out as a function? -/
def isStep (n : Node) : Bool := n.type == stepType

end Node

namespace Graph

/-- The first node with the given id. -/
def node? (g : Graph) (id : Text) : Option Node := g.nodes.find? fun n => n.id == id

/-- The nodes that are written out as functions. -/
def steps (g : Graph) : List Node := g.nodes.filter Node.isStep

end Graph

end GraphScribe
