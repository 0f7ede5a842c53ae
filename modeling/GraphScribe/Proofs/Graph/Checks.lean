import GraphScribe.Proofs.Graph.Order

/-!
# The checks of a value

Everything that is looked at when a graph is made canonical, in the order in which it is looked at
(`Json.checks`); what it means for a value to violate a check, said of the value and of what its
parts stand for (`Json.Violates`); and the check that a rejection tells of (`Rejection.check?`).
-/

namespace GraphScribe

/-- One of the things that are looked at when a graph is made canonical: the forms and the numbers of
the parts, each part by itself, the size of the whole, and what nodes and edges owe each other. -/
inductive Check where
  | graphShape
  | nodesShape
  | edgesShape
  | nodeCount
  | edgeCount
  | nodeShape (i : Nat)
  | nodePart (i : Nat) (field : NodeField)
  | edgeShape (i : Nat)
  | edgePart (i : Nat) (side : EdgeEnd)
  | size
  | markerId (i : Nat)
  | duplicateId (i : Nat)
  | reservedName (i : Nat) (origin : NodeField)
  | takenName (i : Nat)
  | unknownEnd (i : Nat) (side : EdgeEnd)
  | borrowedEnd (i : Nat) (side : EdgeEnd)
  | unwrittenEnd (i : Nat) (side : EdgeEnd)
  deriving DecidableEq

namespace Check

/-- The place that is looked at. -/
def place : Check → Place
  | graphShape | size => .graph
  | nodesShape | nodeCount => .nodes
  | edgesShape | edgeCount => .edges
  | nodeShape i | takenName i => .node i
  | nodePart i field | reservedName i field => .nodeField i field
  | markerId i | duplicateId i => .nodeField i .id
  | edgeShape i => .edge i
  | edgePart i side | unknownEnd i side | borrowedEnd i side | unwrittenEnd i side => .edgeEnd i side

/-! ## The order -/

/-- The checks of the value as a whole, before any item is looked at. -/
def ofWhole : List Check := [graphShape, nodesShape, edgesShape, nodeCount, edgeCount]

/-- The checks of a node by itself. -/
def ofNode (i : Nat) : List Check :=
  [nodeShape i, nodePart i .id, nodePart i .type, nodePart i .label, nodePart i .code]

/-- The checks of an edge by itself. -/
def ofEdge (i : Nat) : List Check := [edgeShape i, edgePart i .source, edgePart i .target]

/-- The checks of a node among the nodes. A name is looked at where it came from. -/
def amongNodes (i : Nat) : List Check :=
  [markerId i, duplicateId i, reservedName i .label, reservedName i .id, takenName i]

/-- The checks of an end of an edge among the nodes. -/
def amongEnds (strict : Bool) (i : Nat) (side : EdgeEnd) : List Check :=
  [unknownEnd i side, borrowedEnd i side] ++ if strict then [unwrittenEnd i side] else []

/-- The checks of an edge among the nodes, its source before its target. -/
def amongEdges (strict : Bool) (i : Nat) : List Check :=
  amongEnds strict i .source ++ amongEnds strict i .target

/-- The checks of the items by themselves. -/
def ofItems (nodes edges : Nat) : List Check :=
  (List.range nodes).flatMap ofNode ++ (List.range edges).flatMap ofEdge

/-- The checks of the items among each other. -/
def amongItems (strict : Bool) (nodes edges : Nat) : List Check :=
  (List.range nodes).flatMap amongNodes ++ (List.range edges).flatMap (amongEdges strict)

end Check

/-- All checks of a value, in order. -/
def Json.checks (strict : Bool) (value : Json) : List Check :=
  let nodes := value.nodeItems.length
  let edges := value.edgeItems.length
  Check.ofWhole ++ Check.ofItems nodes edges ++ [.size] ++ Check.amongItems strict nodes edges

/-! ## Violations -/

/-- The end of an edge on one side. -/
def Edge.endAt (e : Edge) : EdgeEnd → Text
  | .source => e.source
  | .target => e.target

/-- The field that the name of a node comes from. -/
def Node.nameField (n : Node) : NodeField := if n.label.isSome then .label else .id

namespace Json

/-- The members of a node have something that stands for the part under a field. -/
def HasPart (members : List (RawText × Json)) : NodeField → Prop
  | .id => ∃ id, (member "id" members).IdOf id
  | .type => ∃ type, (member "type" members).TypeOf type
  | .label => ∃ label, (member "label" members).LabelOf label
  | .code => ∃ code, (member "code" members).CodeOf code

/-- The value lists something that stands for a node at the index. -/
def NodeAt (value : Json) (i : Nat) (n : Node) : Prop :=
  ∃ item, value.nodeItems[i]? = some item ∧ item.NodeOf n

/-- The value lists something that stands for an edge at the index. -/
def EdgeAt (value : Json) (i : Nat) (e : Edge) : Prop :=
  ∃ item, value.edgeItems[i]? = some item ∧ item.EdgeOf e

/-- The edge at the index has on one side an id that is no marker. -/
def EndAt (value : Json) (i : Nat) (side : EdgeEnd) (id : Text) : Prop :=
  (∃ e, value.EdgeAt i e ∧ e.endAt side = id) ∧ id ≠ "START".toList ∧ id ≠ "END".toList

/-- What it is for a value not to pass a check. -/
def Violates (value : Json) : Check → Prop
  | .graphShape => ∀ members, value ≠ .object members
  | .nodesShape => ∃ members, value = .object members ∧
      ∀ items, ¬ (member "nodes" members).ItemsOf items
  | .edgesShape => ∃ members, value = .object members ∧
      ∀ items, ¬ (member "edges" members).ItemsOf items
  | .nodeCount => 200 < value.nodeItems.length
  | .edgeCount => 600 < value.edgeItems.length
  | .nodeShape i => ∃ item, value.nodeItems[i]? = some item ∧ ∀ members, item ≠ .object members
  | .nodePart i field => ∃ members, value.nodeItems[i]? = some (.object members) ∧
      ¬ HasPart members field
  | .edgeShape i => ∃ item, value.edgeItems[i]? = some item ∧ ∀ members, item ≠ .object members
  | .edgePart i side => ∃ members, value.edgeItems[i]? = some (.object members) ∧
      ∀ id, ¬ (member side.name members).IdOf id
  | .size => ∃ g, value.Describes g ∧ 200000 < g.octets
  | .markerId i => ∃ n, value.NodeAt i n ∧ (n.id = "START".toList ∨ n.id = "END".toList)
  | .duplicateId i => ∃ n, value.NodeAt i n ∧ ∃ j m, j < i ∧ value.NodeAt j m ∧ m.id = n.id
  | .reservedName i origin => ∃ n, value.NodeAt i n ∧ n.nameField = origin ∧
      (n.name = "__start__".toList ∨ n.name = "__end__".toList)
  | .takenName i => ∃ n, value.NodeAt i n ∧ n.type = "NODE".toList ∧
      ∃ j m, j < i ∧ value.NodeAt j m ∧ m.type = "NODE".toList ∧ m.name = n.name
  | .unknownEnd i side => ∃ id, value.EndAt i side id ∧ ∀ j n, value.NodeAt j n → n.id ≠ id
  | .borrowedEnd i side => ∃ j n, value.NodeAt j n ∧ value.EndAt i side n.id ∧
      n.type ≠ "NODE".toList ∧
        ∃ k m, value.NodeAt k m ∧ m.type = "NODE".toList ∧ m.name = n.name
  | .unwrittenEnd i side => ∃ j n, value.NodeAt j n ∧ value.EndAt i side n.id ∧
      n.type ≠ "NODE".toList

end Json

/-! ## What a rejection tells -/

/-- Is it for reasons like this that a part is refused by itself? -/
def Reason.isOfPart : Reason → Bool
  | notString | idMissing | idControl | idTooLong | idCharacters => true
  | typeTooLong | labelTooLong | codeTooLong => true
  | _ => false

/-- The check that a rejection tells of, by its place and its reason. -/
def Rejection.check? (r : Rejection) : Option Check :=
  match r.place, r.reason with
  | .graph, .notObject => some .graphShape
  | .graph, .tooLarge _ => some .size
  | .nodes, .notArray => some .nodesShape
  | .nodes, .tooManyNodes _ => some .nodeCount
  | .edges, .notArray => some .edgesShape
  | .edges, .tooManyEdges _ => some .edgeCount
  | .node i, .notObject => some (.nodeShape i)
  | .node i, .nameTaken _ _ => some (.takenName i)
  | .nodeField i .id, .markerId _ => some (.markerId i)
  | .nodeField i .id, .duplicateId _ => some (.duplicateId i)
  | .nodeField i field, .runtimeName _ => some (.reservedName i field)
  | .nodeField i field, reason => if reason.isOfPart then some (.nodePart i field) else none
  | .edge i, .notObject => some (.edgeShape i)
  | .edgeEnd i side, .unknownNode _ => some (.unknownEnd i side)
  | .edgeEnd i side, .borrowedName _ _ => some (.borrowedEnd i side)
  | .edgeEnd i side, .notWritten _ _ => some (.unwrittenEnd i side)
  | .edgeEnd i side, reason => if reason.isOfPart then some (.edgePart i side) else none
  | _, _ => none

theorem Rejection.place_eq_of_check? {r : Rejection} {check : Check} (h : r.check? = some check) :
    r.place = check.place := by
  obtain ⟨place, reason⟩ := r
  unfold check? at h
  split at h <;> grind [Check.place]

end GraphScribe
