import GraphScribe.Proofs.Program.Planning

/-!
# Renamed graphs

The id of a labelled node says which edges end at it, and nothing else. So the ids can be renamed,
each to another one, and the program stays as it is (`exists_source_rename`).

## The architecture

* **`Graph.Renames`**: what is asked of a renaming: different nodes keep different ids, and no node
  gets the id of a marker.
* **`nodesOf_rename`**: the planned nodes are the same but for their ids, since a labelled node has
  its name from its label.
* **`ExpressionFor.rename`**: an end is looked up under its new id with the same result, since the
  first node with the new id is the first node with the old one.
* **`Plan.source_rename`**: the source of a plan is written without the ids.
-/

namespace GraphScribe

variable (f : Text → Text)

/-! ## Renaming -/

def Node.rename (n : Node) : Node := { n with id := f n.id }

/-- The id that an end of an edge is renamed to: markers stay. -/
def renameEnd (id : Text) : Text := if isMarker id then id else f id

def Edge.rename (e : Edge) : Edge := ⟨renameEnd f e.source, renameEnd f e.target⟩

/-- The graph with the ids of its nodes renamed, as nodes and as ends of edges. -/
def Graph.rename (g : Graph) : Graph := ⟨g.nodes.map (Node.rename f), g.edges.map (Edge.rename f)⟩

def PlannedNode.rename (p : PlannedNode) : PlannedNode := { p with id := f p.id }

def Plan.rename (plan : Plan) : Plan := ⟨plan.nodes.map (PlannedNode.rename f), plan.edges⟩

/-- The ids of a graph can be renamed: none of them becomes a marker, and no two of them become one. -/
structure Graph.Renames (g : Graph) : Prop where
  injective : ∀ n ∈ g.nodes, ∀ m ∈ g.nodes, f n.id = f m.id → n.id = m.id
  free : ∀ n ∈ g.nodes, f n.id ≠ "START".toList ∧ f n.id ≠ "END".toList

/-- Every node of the graph has a label that is not empty. -/
def Graph.Labelled (g : Graph) : Prop := ∀ n ∈ g.nodes, ∃ c rest, n.label = some (c :: rest)

/-! ## Planned nodes -/

section

variable {f} {g : Graph}

theorem Graph.Labelled.name_rename (h : g.Labelled) {n : Node} (hn : n ∈ g.nodes) :
    (n.rename f).name = n.name := by
  obtain ⟨c, rest, hlabel⟩ := h n hn
  unfold Node.name Node.rename
  dsimp only
  rw [hlabel]

theorem Graph.steps_rename : (g.rename f).steps = g.steps.map (Node.rename f) := by
  show (g.nodes.map (Node.rename f)).filter Node.isStep = _
  rw [List.filter_map]
  rfl

/-- The steps go by the same names, so that they have the same functions. -/
theorem Graph.Labelled.namedSteps_rename (h : g.Labelled) :
    namedSteps (g.rename f) = (namedSteps g).map (Prod.map (Node.rename f) id) := by
  have names : (g.rename f).steps.map Node.name = g.steps.map Node.name := by
    rw [Graph.steps_rename, List.map_map]
    exact List.map_congr_left fun n hn => h.name_rename (List.mem_filter.1 hn).1
  unfold namedSteps
  rw [names, Graph.steps_rename, List.zip_map_left]

theorem Graph.Labelled.nodesOf_rename (h : g.Labelled) :
    Plan.nodesOf (g.rename f) = (Plan.nodesOf g).map (PlannedNode.rename f) := by
  rw [Plan.nodesOf_eq_map, Plan.nodesOf_eq_map, h.namedSteps_rename, List.map_map, List.map_map]
  refine List.map_congr_left fun pair hpair => ?_
  have hstep : pair.1 ∈ g.steps := (List.of_mem_zip hpair).1
  show PlannedNode.mk (f pair.1.id) (pair.1.rename f).name pair.1.type pair.2 pair.1.code = _
  rw [h.name_rename (List.mem_filter.1 hstep).1]
  rfl

/-! ## Planned edges -/

theorem Graph.of_node?_eq_some {id : Text} {n : Node} (h : g.node? id = some n) :
    n ∈ g.nodes ∧ n.id = id := by
  unfold Graph.node? at h
  have hid := List.find?_some h
  exact ⟨List.mem_of_find?_eq_some h, beq_iff_eq.1 hid⟩

/-- Under its new id a node is found exactly where it was found under its old one. -/
theorem Graph.Renames.node?_rename (h : g.Renames f) {m : Node} (hm : m ∈ g.nodes) :
    (g.rename f).node? (f m.id) = (g.node? m.id).map (Node.rename f) := by
  have same : ∀ n ∈ g.nodes, ((fun n => n.id == f m.id) ∘ Node.rename f) n = (n.id == m.id) := by
    intro n hn
    have ids : f n.id = f m.id ↔ n.id = m.id := ⟨h.injective n hn m hm, congrArg f⟩
    show (f n.id == f m.id) = (n.id == m.id)
    rw [Bool.eq_iff_iff, beq_iff_eq, beq_iff_eq, ids]
  show (g.nodes.map (Node.rename f)).find? (fun n => n.id == f m.id) = _
  unfold Graph.node?
  rw [List.find?_map, ← List.head?_filter, ← List.head?_filter, List.filter_congr same]

/-- An end of an edge is written as before. -/
theorem ExpressionFor.rename (labelled : g.Labelled) (renames : g.Renames f) {id x : Text}
    (h : ExpressionFor g id x) : ExpressionFor (g.rename f) (renameEnd f id) x := by
  unfold renameEnd
  cases h with
  | marker hmarker =>
    rw [if_pos hmarker]
    exact .marker hmarker
  | @node n hmarker found =>
    obtain ⟨hn, rfl⟩ := Graph.of_node?_eq_some found
    have free : isMarker (f n.id) = false := by
      rw [Bool.eq_false_iff, Ne, isMarker_iff, not_or]
      exact renames.free n hn
    have found' : (g.rename f).node? (f n.id) = some (n.rename f) := by
      rw [renames.node?_rename hn, found]
      rfl
    rw [if_neg (by simp [hmarker]), ← labelled.name_rename hn]
    exact .node free found'

/-! ## The program -/

/-- The source of a plan does not depend on the ids of its nodes. -/
theorem Plan.source_rename (plan : Plan) (bootstrap : Option Text) :
    (plan.rename f).source bootstrap = plan.source bootstrap := by
  have functions : functionSection (plan.rename f) = functionSection plan := by
    unfold functionSection Plan.rename
    rw [List.flatMap_map]
    rfl
  have assembly : assemblySection (plan.rename f) = assemblySection plan := by
    unfold assemblySection Plan.rename
    rw [List.flatMap_map]
    rfl
  unfold Plan.source Plan.sourceLines
  rw [functions, assembly]

/-- The ids of labelled nodes are nothing but the wiring: a graph whose edges end at markers and at
its nodes has a program, and has the same program after its ids are renamed. -/
theorem exists_source_rename (labelled : g.Labelled) (known : g.EndsKnown) (renames : g.Renames f)
    (bootstrap : Option Text) :
    ∃ source, g.source bootstrap = .ok source ∧ (g.rename f).source bootstrap = .ok source := by
  obtain ⟨plan, hplan⟩ := known.exists_plan
  obtain ⟨hnodes, hedges⟩ := (Plan.ofGraph_eq_ok_iff g plan).1 hplan
  have edges : List.Forall₂ (EdgePlanned (g.rename f)) (g.edges.map (Edge.rename f)) plan.edges := by
    rw [List.forall₂_map_left_iff]
    refine hedges.imp fun e p planned => ⟨?_, ?_⟩
    · exact planned.source.rename labelled renames
    · exact planned.target.rename labelled renames
  have hplan' : Plan.ofGraph (g.rename f) = .ok (plan.rename f) := by
    refine (Plan.ofGraph_eq_ok_iff _ _).2 ⟨?_, edges⟩
    show plan.nodes.map (PlannedNode.rename f) = _
    rw [labelled.nodesOf_rename, hnodes]
  refine ⟨plan.source bootstrap, ?_, ?_⟩
  · unfold Graph.source
    rw [hplan]
    rfl
  · unfold Graph.source
    rw [hplan', ok_bind, plan.source_rename]
    rfl

end

/-! ## A graph whose labels are the ids of other nodes -/

/-- Two steps that are labelled with each other's ids, and a note that borrows the label of one. -/
def crossed : Graph where
  nodes := [
    ⟨"left".toList, "NODE".toList, some "right".toList, some "return left".toList⟩,
    ⟨"right".toList, "NODE".toList, some "left".toList, none⟩,
    ⟨"note".toList, "NOTE".toList, some "right".toList, none⟩]
  edges := [⟨"START".toList, "left".toList⟩, ⟨"left".toList, "right".toList⟩,
    ⟨"right".toList, "note".toList⟩, ⟨"note".toList, "END".toList⟩]

/-- Two ids change places, and every other one gets longer. -/
def crossing (id : Text) : Text :=
  if id = "left".toList then "right".toList
  else if id = "right".toList then "left".toList
  else 'a' :: id

theorem exists_source_rename_crossed : ∃ source, crossed.source none = .ok source ∧
    (crossed.rename crossing).source none = .ok source := by
  have labelled : crossed.Labelled := by
    intro n hn
    simp only [crossed, List.mem_cons, List.not_mem_nil, or_false] at hn
    rcases hn with rfl | rfl | rfl <;> exact ⟨_, _, rfl⟩
  exact exists_source_rename labelled (by unfold Graph.EndsKnown; decide)
    ⟨by decide, by decide⟩ none

end GraphScribe
