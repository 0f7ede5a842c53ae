import GraphScribe.Graph.Rejection
import GraphScribe.Identifier.Assign

/-!
# Plans

A plan is a graph with every name resolved: the steps with their function names, and for each edge
the two expressions that denote its ends. An end is the bare marker, or the quoted name of its node.
Planning fails exactly on an end that is neither a marker nor the id of a node.
-/

namespace GraphScribe

structure PlannedNode where
  id : Text
  name : Text
  type : Text
  function : Text
  code : Option Text
  deriving DecidableEq, Inhabited

structure PlannedEdge where
  source : Text
  target : Text
  deriving DecidableEq, Inhabited

/-- Nodes and edges ready to be written. -/
structure Plan where
  nodes : List PlannedNode
  edges : List PlannedEdge
  deriving DecidableEq, Inhabited

namespace Plan

/-- The steps of a graph with their function names. -/
def nodesOf (g : Graph) : List PlannedNode :=
  g.steps.zipWith (fun n function => ⟨n.id, n.name, n.type, function, n.code⟩)
    (assignNames (g.steps.map Node.name))

/-- The expression for an end of an edge. -/
def endExpression (g : Graph) (place : Place) (id : Text) : Except Rejection Text :=
  if isMarker id then .ok id
  else match g.node? id with
    | some n => .ok (quoted n.name)
    | none => .error ⟨place, .unknownNode id⟩

/-- The expressions for the edge at `index`. -/
def edgeOf (g : Graph) (index : Nat) (e : Edge) : Except Rejection PlannedEdge := do
  let source ← endExpression g (.edgeEnd index .source) e.source
  let target ← endExpression g (.edgeEnd index .target) e.target
  return ⟨source, target⟩

def ofGraph (g : Graph) : Except Rejection Plan := do
  let edges ← g.edges.zipIdx.mapM fun (e, i) => edgeOf g i e
  return ⟨nodesOf g, edges⟩

end Plan

end GraphScribe
