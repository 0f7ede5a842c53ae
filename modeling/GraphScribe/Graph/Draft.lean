import GraphScribe.Graph.Field
import GraphScribe.Json.Writer

/-!
# Drafts

A draft is a graph whose parts are clean but have not been seen together. Its texts are still raw:
whether they can be encoded at all shows only when the size of the whole is taken.
-/

namespace GraphScribe

structure DraftNode where
  id : Text
  type : RawText
  label : Option RawText
  code : Option RawText
  deriving DecidableEq

structure Draft where
  nodes : List DraftNode
  edges : List Edge
  deriving DecidableEq

/-! ## The JSON form -/

/-- A member for a part that may be absent. -/
def optionalField (key : String) : Option RawText → List (RawText × Json)
  | some t => [Json.field key (.string t)]
  | none => []

/-- The JSON form of a draft's node. -/
def DraftNode.toJson (n : DraftNode) : Json :=
  .object (Json.field "id" (.text n.id) :: Json.field "type" (.string n.type)
    :: optionalField "label" n.label ++ optionalField "code" n.code)

def Edge.toJson (e : Edge) : Json :=
  .object [Json.field "source" (.text e.source), Json.field "target" (.text e.target)]

def Draft.toJson (d : Draft) : Json :=
  .object [Json.field "nodes" (.array (d.nodes.map DraftNode.toJson)),
           Json.field "edges" (.array (d.edges.map Edge.toJson))]

/-! ## Drafts and graphs -/

def Node.toDraft (n : Node) : DraftNode := ⟨n.id, rawOf n.type, n.label.map rawOf, n.code.map rawOf⟩

def Graph.toDraft (g : Graph) : Draft := ⟨g.nodes.map Node.toDraft, g.edges⟩

def Node.toJson (n : Node) : Json := n.toDraft.toJson

def Graph.toJson (g : Graph) : Json := g.toDraft.toJson

/-- The node that a draft's node is when lone halves are left out of its texts. -/
def DraftNode.toNode (n : DraftNode) : Node :=
  ⟨n.id, RawText.text n.type, n.label.map RawText.text, n.code.map RawText.text⟩

/-- The graph that a draft is when lone halves are left out of its texts. -/
def Draft.toGraph (d : Draft) : Graph := ⟨d.nodes.map DraftNode.toNode, d.edges⟩

theorem Node.toNode_toDraft (n : Node) : n.toDraft.toNode = n := by
  cases n with
  | mk id type label code =>
    simp only [Node.toDraft, DraftNode.toNode, RawText.text_rawOf]
    cases label <;> cases code <;> simp [RawText.text_rawOf]

theorem Graph.toGraph_toDraft (g : Graph) : g.toDraft.toGraph = g := by
  cases g with
  | mk nodes edges =>
    have same : (DraftNode.toNode ∘ Node.toDraft) = id := funext Node.toNode_toDraft
    simp [Graph.toDraft, Draft.toGraph, List.map_map, same]

/-! ## Cleaning a whole value -/

/-- The members of a value that has to be an object. -/
def expectObject (place : Place) : Json → Except Rejection (List (RawText × Json))
  | .object members => .ok members
  | _ => .error ⟨place, .notObject⟩

/-- The items of a value that has to be an array or absent. -/
def expectArray (place : Place) : Json → Except Rejection (List Json)
  | .null => .ok []
  | .array items => .ok items
  | _ => .error ⟨place, .notArray⟩

/-- A result with the place of its reason. -/
def at' {α : Type} (place : Place) (result : Except Reason α) : Except Rejection α :=
  result.mapError fun reason => ⟨place, reason⟩

/-- The clean form of the node at `index`. -/
def cleanNode (index : Nat) (value : Json) : Except Rejection DraftNode := do
  let members ← expectObject (.node index) value
  let id ← at' (.nodeField index .id) (cleanId (Json.member "id" members))
  let type ← at' (.nodeField index .type) (cleanType (Json.member "type" members))
  let label ← at' (.nodeField index .label) (cleanLabel (Json.member "label" members))
  let code ← at' (.nodeField index .code) (cleanCode (Json.member "code" members))
  return ⟨id, type, label, code⟩

/-- The clean form of the edge at `index`. -/
def cleanEdge (index : Nat) (value : Json) : Except Rejection Edge := do
  let members ← expectObject (.edge index) value
  let source ← at' (.edgeEnd index .source) (cleanId (Json.member "source" members))
  let target ← at' (.edgeEnd index .target) (cleanId (Json.member "target" members))
  return ⟨source, target⟩

def cleanGraph (value : Json) : Except Rejection Draft := do
  let members ← expectObject .graph value
  let nodes ← expectArray .nodes (Json.member "nodes" members)
  let edges ← expectArray .edges (Json.member "edges" members)
  -- the numbers are looked at before any item is
  if nodeLimit < nodes.length then .error ⟨.nodes, .tooManyNodes nodes.length⟩
  else if edgeLimit < edges.length then .error ⟨.edges, .tooManyEdges edges.length⟩
  else
    let nodes ← nodes.zipIdx.mapM fun (v, i) => cleanNode i v
    let edges ← edges.zipIdx.mapM fun (v, i) => cleanEdge i v
    return ⟨nodes, edges⟩

end GraphScribe
