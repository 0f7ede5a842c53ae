import GraphScribe.Graph.Rejection

/-!
# The structure of a graph

What the nodes and edges of a graph owe each other. Ids are distinct and none of them is a marker;
no name is one that a running graph keeps for itself; the names of steps are distinct; and an edge
ends at a marker or at a node. An end at a node that is no step is dubious: it is refused when the
node borrows the name of a step, and otherwise worth a warning, or refused too when the check is
strict.
-/

namespace GraphScribe

/-! ## Nodes -/

/-- The first node with some property, by its index. -/
def indexWhere? (p : Node → Bool) (nodes : List Node) : Option Nat := nodes.findIdx? p

/-- The index of the step with the given name. -/
def stepNamed? (name : Text) (nodes : List Node) : Option Nat :=
  indexWhere? (fun n => n.isStep && n.name == name) nodes

/-- What is wrong with a node that comes after the nodes `earlier`. -/
def nodeFault? (earlier : List Node) (n : Node) : Option Rejection :=
  let index := earlier.length
  if isMarker n.id then some ⟨.nodeField index .id, .markerId n.id⟩
  else if earlier.any (·.id == n.id) then some ⟨.nodeField index .id, .duplicateId n.id⟩
  else if runtimeNames.contains n.name then
    -- the fault is put where the name came from
    some ⟨.nodeField index (if n.label.isSome then .label else .id), .runtimeName n.name⟩
  else if n.isStep then
    -- only steps need names of their own, and only among themselves
    (stepNamed? n.name earlier).map fun owner => ⟨.node index, .nameTaken n.name owner⟩
  else none

/-- What is wrong with the first faulty one of some nodes that come after the nodes `earlier`. -/
def firstNodeFault? (earlier : List Node) : List Node → Option Rejection
  | [] => none
  | n :: rest =>
    match nodeFault? earlier n with
    | some fault => some fault
    | none => firstNodeFault? (earlier ++ [n]) rest

/-! ## Edges -/

/-- What is to be said of the end of an edge. -/
inductive Verdict where
  | sound
  | dubious (reason : Reason)
  | refused (reason : Reason)
  deriving DecidableEq

/-- What is to be said of an edge that ends at `id`. -/
def endVerdict (nodes : List Node) (id : Text) : Verdict :=
  if isMarker id then .sound
  else match nodes.find? (·.id == id) with
    | none => .refused (.unknownNode id)
    | some n =>
      if n.isStep then .sound
      else match stepNamed? n.name nodes with
        -- the program would take the edge for one of the step with that name
        | some owner => .refused (.borrowedName id owner)
        | none => .dubious (.notWritten id n.type)

/-- The ends of some edges with their places, each source before its target. -/
def edgeEnds (edges : List Edge) : List (Place × Text) :=
  edges.zipIdx.flatMap fun (e, i) => [(.edgeEnd i .source, e.source), (.edgeEnd i .target, e.target)]

/-- The warnings up to the first fault, and that fault if there is one. A dubious end is a warning,
or a fault when the check is strict. -/
def judge (strict : Bool) : List (Place × Verdict) → List Rejection × Option Rejection
  | [] => ([], none)
  | (place, verdict) :: rest =>
    match verdict with
    | .sound => judge strict rest
    | .refused reason => ([], some ⟨place, reason⟩)
    | .dubious reason =>
      if strict then ([], some ⟨place, reason⟩)
      else
        -- the warning stands, also when a later end is refused
        let (warnings, fault) := judge strict rest
        (⟨place, reason⟩ :: warnings, fault)

/-- The verdicts on the ends of a graph's edges, in order. -/
def endVerdicts (g : Graph) : List (Place × Verdict) :=
  (edgeEnds g.edges).map fun (place, id) => (place, endVerdict g.nodes id)

/-- The warnings about a graph, and the first fault in it. -/
def checkStructure (strict : Bool) (g : Graph) : List Rejection × Option Rejection :=
  match firstNodeFault? [] g.nodes with
  | some fault => ([], some fault)
  | none => judge strict (endVerdicts g)

end GraphScribe
