import GraphScribe.Proofs.Graph.Stored

/-!
# Reading the JSON form of any graph

A graph with any code points in its texts is read back from its JSON form as it was, part by part:
what is absent stays absent, and what is empty stays empty (`RawGraph.ofJson_toJson`). The reading of
graphs without lone halves is this one with the lone halves left out (`Graph.ofJson_eq_map`).
-/

namespace GraphScribe

/-! ## Reading with lone halves -/

/-- The string that an optional member holds, if it is a string. -/
def rawMember? (key : String) (members : List (RawText × Json)) : Option RawText :=
  match Json.member key members with
  | .string t => some t
  | _ => none

/-- The string of a member that has to be there. -/
def requiredRaw (key : String) (members : List (RawText × Json)) : Except Failure RawText :=
  match rawMember? key members with
  | some t => .ok t
  | none => .error (.missingMember key)

def RawNode.ofJson (value : Json) : Except Failure RawNode := do
  let members := membersOf value
  let id ← requiredRaw "id" members
  return ⟨id, (rawMember? "type" members).getD (rawOf stepType), rawMember? "label" members,
    rawMember? "code" members⟩

def RawEdge.ofJson (value : Json) : Except Failure RawEdge := do
  let members := membersOf value
  return ⟨← requiredRaw "source" members, ← requiredRaw "target" members⟩

/-- The graph that a canonical JSON graph is, with the lone halves of its strings. -/
def RawGraph.ofJson (value : Json) : Except Failure RawGraph := do
  let members := membersOf value
  let nodes ← (itemsOf (Json.member "nodes" members)).mapM RawNode.ofJson
  let edges ← (itemsOf (Json.member "edges" members)).mapM RawEdge.ofJson
  return ⟨nodes, edges⟩

/-! ## Without the lone halves -/

/-- The node without the lone halves in its texts. -/
def RawNode.toNode (n : RawNode) : Node :=
  ⟨RawText.text n.id, RawText.text n.type, n.label.map RawText.text, n.code.map RawText.text⟩

def RawEdge.toEdge (e : RawEdge) : Edge := ⟨RawText.text e.source, RawText.text e.target⟩

/-- The graph without the lone halves in its texts. -/
def RawGraph.toGraph (g : RawGraph) : Graph :=
  ⟨g.nodes.map RawNode.toNode, g.edges.map RawEdge.toEdge⟩

theorem textMember?_eq_map (key : String) (members : List (RawText × Json)) :
    textMember? key members = (rawMember? key members).map RawText.text := by
  unfold textMember? rawMember?
  cases Json.member key members <;> rfl

theorem requiredText_eq_map (key : String) (members : List (RawText × Json)) :
    requiredText key members = (requiredRaw key members).map RawText.text := by
  unfold requiredText requiredRaw
  rw [textMember?_eq_map]
  cases rawMember? key members <;> rfl

theorem Node.ofJson_eq_map (value : Json) :
    Node.ofJson value = (RawNode.ofJson value).map RawNode.toNode := by
  unfold Node.ofJson RawNode.ofJson
  dsimp only
  simp only [requiredText_eq_map, textMember?_eq_map]
  cases requiredRaw "id" (membersOf value) with
  | error failure => rfl
  | ok id =>
    -- a type that is absent is the same with lone halves and without
    cases rawMember? "type" (membersOf value) with
    | none =>
      show Except.ok _ = Except.ok (RawNode.toNode ⟨id, rawOf stepType, _, _⟩)
      unfold RawNode.toNode
      rw [RawText.text_rawOf]
      rfl
    | some type => rfl

theorem Edge.ofJson_eq_map (value : Json) :
    Edge.ofJson value = (RawEdge.ofJson value).map RawEdge.toEdge := by
  unfold Edge.ofJson RawEdge.ofJson
  dsimp only
  simp only [requiredText_eq_map]
  cases requiredRaw "source" (membersOf value) with
  | error failure => rfl
  | ok source =>
    cases requiredRaw "target" (membersOf value) with
    | error failure => rfl
    | ok target => rfl

/-- A graph is read without lone halves by reading it with them and leaving them out. -/
theorem Graph.ofJson_eq_map (value : Json) :
    Graph.ofJson value = (RawGraph.ofJson value).map RawGraph.toGraph := by
  unfold Graph.ofJson RawGraph.ofJson
  dsimp only
  rw [show Node.ofJson = _ from funext Node.ofJson_eq_map,
    show Edge.ofJson = _ from funext Edge.ofJson_eq_map, mapM_map_outcome, mapM_map_outcome]
  cases (itemsOf (Json.member "nodes" (membersOf value))).mapM RawNode.ofJson with
  | error failure => rfl
  | ok nodes =>
    cases (itemsOf (Json.member "edges" (membersOf value))).mapM RawEdge.ofJson with
    | error failure => rfl
    | ok edges => rfl

/-! ## Back from the JSON form -/

theorem RawNode.exists_members (n : RawNode) : ∃ members, n.toJson = .object members ∧
    rawMember? "id" members = some n.id ∧ rawMember? "type" members = some n.type ∧
    rawMember? "label" members = n.label ∧ rawMember? "code" members = n.code := by
  obtain ⟨id, type, label, code⟩ := n
  refine ⟨_, rfl, ?_, ?_, ?_, ?_⟩
  all_goals cases label <;> cases code <;> rfl

theorem RawNode.ofJson_toJson (n : RawNode) : RawNode.ofJson n.toJson = .ok n := by
  obtain ⟨members, hmembers, id, type, label, code⟩ := n.exists_members
  unfold RawNode.ofJson requiredRaw
  dsimp only
  rw [hmembers, membersOf, id, type, label, code]
  rfl

theorem RawEdge.ofJson_toJson (e : RawEdge) : RawEdge.ofJson e.toJson = .ok e := rfl

/-- A graph with any code points is read back from its JSON form. -/
theorem RawGraph.ofJson_toJson (g : RawGraph) : RawGraph.ofJson g.toJson = .ok g := by
  have nodes : itemsOf (Json.member "nodes" (membersOf g.toJson)) = g.nodes.map RawNode.toJson := rfl
  have edges : itemsOf (Json.member "edges" (membersOf g.toJson)) = g.edges.map RawEdge.toJson := rfl
  unfold RawGraph.ofJson
  dsimp only
  rw [nodes, edges, mapM_map_eq_ok RawNode.ofJson_toJson, ok_bind,
    mapM_map_eq_ok RawEdge.ofJson_toJson]
  rfl

/-- A graph that has the JSON form of a graph without lone halves is that graph. -/
theorem RawGraph.eq_toRaw_of_toJson_eq {r : RawGraph} {g : Graph} (h : g.toJson = r.toJson) :
    r = g.toRaw := by
  apply RawGraph.toJson_injective
  rw [g.toJson_toRaw, h]

end GraphScribe
