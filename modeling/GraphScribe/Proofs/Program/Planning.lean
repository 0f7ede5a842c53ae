import GraphScribe.Proofs.Graph.Acceptance
import GraphScribe.Proofs.Identifier.Fresh
import GraphScribe.Proofs.Outcome
import GraphScribe.Proofs.Program.Layout

/-!
# The plan of a sound graph

Planning looks up every end of every edge. It succeeds exactly with one expression for each end that
stands for it (`ofGraph_eq_ok_iff`). It succeeds when every end is known (`Graph.EndsKnown.exists_plan`),
and so it always does for a sound graph, so that an accepted value is always compiled
(`exists_plan_of_canonical`).
-/

namespace GraphScribe

/-! ## Planned nodes -/

/-- The steps of a graph beside the names of their functions. -/
def namedSteps (g : Graph) : List (Node × Text) :=
  g.steps.zip (assignNames (g.steps.map Node.name))

theorem Plan.nodesOf_eq_map (g : Graph) :
    nodesOf g = (namedSteps g).map fun (n, f) => ⟨n.id, n.name, n.type, f, n.code⟩ := by
  unfold nodesOf namedSteps
  rw [← List.map_uncurry_zip_eq_zipWith]
  rfl

theorem length_functions (g : Graph) :
    g.steps.length = (assignNames (g.steps.map Node.name)).length := by
  rw [length_assignNames, List.length_map]

/-- The planned nodes of a graph, looked at without their function names, are its steps. -/
theorem Plan.map_nodesOf {β : Type} (g : Graph) {view : PlannedNode → β} {view' : Node → β}
    (h : ∀ (n : Node) (f : Text), view ⟨n.id, n.name, n.type, f, n.code⟩ = view' n) :
    (nodesOf g).map view = g.steps.map view' := by
  -- as many names as steps, so that no step is lost
  have steps : (namedSteps g).map Prod.fst = g.steps :=
    List.map_fst_zip (Nat.le_of_eq (length_functions g))
  rw [nodesOf_eq_map, List.map_map]
  conv_rhs => rw [← steps, List.map_map]
  exact List.map_congr_left fun pair _ => h pair.1 pair.2

theorem Plan.map_function_nodesOf (g : Graph) :
    (nodesOf g).map PlannedNode.function = assignNames (g.steps.map Node.name) := by
  rw [nodesOf_eq_map, List.map_map]
  exact List.map_snd_zip (Nat.le_of_eq (length_functions g).symm)

theorem Plan.isStep_of_mem_nodesOf {g : Graph} {p : PlannedNode} (h : p ∈ nodesOf g) :
    p.isStep = true := by
  have types : (nodesOf g).map PlannedNode.isStep = g.steps.map Node.isStep :=
    map_nodesOf g fun _ _ => rfl
  have here : p.isStep ∈ g.steps.map Node.isStep := types ▸ List.mem_map_of_mem h
  obtain ⟨n, hn, heq⟩ := List.mem_map.1 here
  exact heq ▸ (List.mem_filter.1 hn).2

theorem Plan.isFunctionName_of_mem_nodesOf {g : Graph} {p : PlannedNode} (h : p ∈ nodesOf g) :
    IsFunctionName p.function := by
  have given : p.function ∈ assignNames (g.steps.map Node.name) := by
    rw [← map_function_nodesOf]
    exact List.mem_map_of_mem h
  exact isFunctionName_of_mem_assignNames given

theorem Plan.nodup_functions (g : Graph) : ((nodesOf g).map PlannedNode.function).Nodup := by
  rw [map_function_nodesOf]
  exact nodup_assignNames _

/-! ## Planned edges -/

/-- The expression for an end of an edge: a marker stands for itself, and a node is denoted by the
literal of its name. -/
inductive ExpressionFor (g : Graph) : Text → Text → Prop
  | marker {id : Text} (h : isMarker id = true) : ExpressionFor g id id
  | node {id : Text} {n : Node} (h : isMarker id = false) (found : g.node? id = some n) :
      ExpressionFor g id (quoted n.name)

/-- The plan for an edge: an expression for either end. -/
structure EdgePlanned (g : Graph) (e : Edge) (p : PlannedEdge) : Prop where
  source : ExpressionFor g e.source p.source
  target : ExpressionFor g e.target p.target

theorem Plan.endExpression_eq_ok_iff (g : Graph) (place : Place) (id x : Text) :
    endExpression g place id = .ok x ↔ ExpressionFor g id x := by
  unfold endExpression
  cases hmarker : isMarker id with
  | true =>
    rw [if_pos rfl]
    constructor
    · intro h
      injection h with h
      exact h ▸ .marker hmarker
    · intro h
      cases h with
      | marker => rfl
      | node hnot => exact absurd (hmarker.symm.trans hnot) (by simp)
  | false =>
    rw [if_neg (by simp)]
    cases hfound : g.node? id with
    | none =>
      refine iff_of_false (by simp) fun h => ?_
      cases h with
      | marker hyes => exact absurd (hmarker.symm.trans hyes) (by simp)
      | node _ found => exact absurd (hfound.symm.trans found) (by simp)
    | some n =>
      constructor
      · intro h
        injection h with h
        exact h ▸ .node hmarker hfound
      · intro h
        cases h with
        | marker hyes => exact absurd (hmarker.symm.trans hyes) (by simp)
        | node _ found => rw [Option.some.inj (hfound.symm.trans found)]

theorem Plan.edgeOf_eq_ok_iff (g : Graph) (index : Nat) (e : Edge) (p : PlannedEdge) :
    edgeOf g index e = .ok p ↔ EdgePlanned g e p := by
  unfold edgeOf
  simp only [bind_eq_ok_iff, endExpression_eq_ok_iff]
  constructor
  · rintro ⟨source, hsource, target, htarget, heq⟩
    injection heq with heq
    exact heq ▸ ⟨hsource, htarget⟩
  · rintro ⟨hsource, htarget⟩
    exact ⟨p.source, hsource, p.target, htarget, rfl⟩

/-- A graph has a plan exactly if the plan holds its steps under their function names, and an
expression for each end of each edge. -/
theorem Plan.ofGraph_eq_ok_iff (g : Graph) (plan : Plan) :
    ofGraph g = .ok plan ↔
      plan.nodes = nodesOf g ∧ List.Forall₂ (EdgePlanned g) g.edges plan.edges := by
  have edges := mapM_zipIdx_eq_ok_iff (edgeOf_eq_ok_iff g) 0 g.edges
  unfold ofGraph
  rw [bind_eq_ok_iff]
  constructor
  · rintro ⟨planned, hplanned, heq⟩
    injection heq with heq
    rw [← heq]
    exact ⟨rfl, (edges planned).1 hplanned⟩
  · rintro ⟨hnodes, hedges⟩
    refine ⟨plan.edges, (edges plan.edges).2 hedges, ?_⟩
    rw [← hnodes]
    rfl

/-- The plan of a graph is well formed, sound or not. -/
theorem Plan.wellFormed_of_ofGraph {g : Graph} {plan : Plan} (h : ofGraph g = .ok plan) :
    plan.WellFormed := by
  obtain ⟨hnodes, hedges⟩ := (ofGraph_eq_ok_iff g plan).1 h
  have expression : ∀ {id x : Text}, ExpressionFor g id x → IsExpression x := by
    intro id x hx
    cases hx with
    | marker hmarker => exact isExpression_of_isMarker hmarker
    | node => exact Or.inl ⟨_, rfl⟩
  refine ⟨?_, ?_, ?_, ?_⟩
  · exact hnodes ▸ fun p hp => isStep_of_mem_nodesOf hp
  · exact hnodes ▸ fun p hp => isFunctionName_of_mem_nodesOf hp
  · exact hnodes ▸ nodup_functions g
  · intro p hp
    obtain ⟨e, -, planned⟩ := exists_of_mem_forall₂ hedges hp
    exact ⟨expression planned.source, expression planned.target⟩

/-! ## Graphs that have a plan -/

/-- Every edge of the graph ends at markers and at nodes of the graph. -/
def Graph.EndsKnown (g : Graph) : Prop :=
  ∀ id ∈ g.endIds, id = "START".toList ∨ id = "END".toList ∨ ∃ n ∈ g.nodes, n.id = id

theorem Graph.exists_node?_of_id {g : Graph} {id : Text} (h : ∃ n ∈ g.nodes, n.id = id) :
    ∃ n, g.node? id = some n := by
  obtain ⟨n, hn, heq⟩ := h
  exact Option.isSome_iff_exists.1 (List.find?_isSome.2 ⟨n, hn, beq_iff_eq.2 heq⟩)

theorem Graph.EndsKnown.exists_expression {g : Graph} (h : g.EndsKnown) {id : Text}
    (hid : id ∈ g.endIds) : ∃ x, ExpressionFor g id x := by
  cases hmarker : isMarker id with
  | true => exact ⟨id, .marker hmarker⟩
  | false =>
    -- neither marker, so there is a node under this id
    rcases h id hid with hstart | hend | hnode
    · exact absurd hmarker (by rw [(isMarker_iff id).2 (Or.inl hstart)]; simp)
    · exact absurd hmarker (by rw [(isMarker_iff id).2 (Or.inr hend)]; simp)
    · obtain ⟨n, found⟩ := exists_node?_of_id hnode
      exact ⟨quoted n.name, .node hmarker found⟩

theorem Graph.EndsKnown.exists_plan {g : Graph} (h : g.EndsKnown) :
    ∃ plan, Plan.ofGraph g = .ok plan := by
  have planned : ∀ e ∈ g.edges, ∃ p, EdgePlanned g e p := by
    intro e he
    obtain ⟨source, hsource⟩ := h.exists_expression (g.source_mem_endIds he)
    obtain ⟨target, htarget⟩ := h.exists_expression (g.target_mem_endIds he)
    exact ⟨⟨source, target⟩, hsource, htarget⟩
  obtain ⟨plans, hplans⟩ := exists_forall₂ planned
  exact ⟨⟨Plan.nodesOf g, plans⟩, (Plan.ofGraph_eq_ok_iff g _).2 ⟨rfl, hplans⟩⟩

theorem Graph.Sound.node?_eq_some_iff {strict : Bool} {g : Graph} (h : g.Sound strict) (id : Text)
    (n : Node) : g.node? id = some n ↔ n ∈ g.nodes ∧ n.id = id :=
  find?_id_eq_some_iff h.ids_distinct id n

/-- A sound graph has a plan. -/
theorem Graph.Sound.exists_plan {strict : Bool} {g : Graph} (h : g.Sound strict) :
    ∃ plan, Plan.ofGraph g = .ok plan :=
  EndsKnown.exists_plan h.ends_known

/-- An accepted value is compiled: its graph has a plan, and the program is the source of that
plan. -/
theorem exists_plan_of_canonical {strict : Bool} {value : Json} {g : Graph}
    (h : (canonical strict value).outcome = .ok g) :
    ∃ plan, Plan.ofGraph g = .ok plan ∧
      ∀ bootstrap, (compile strict bootstrap value).outcome = .ok (plan.source bootstrap) := by
  obtain ⟨-, -, sound⟩ := (outcome_canonical_eq_ok_iff strict value g).1 h
  obtain ⟨plan, hplan⟩ := sound.exists_plan
  refine ⟨plan, hplan, fun bootstrap => ?_⟩
  unfold compile
  rw [Run.outcome_bind, h]
  show (Run.ofExcept ((g.source bootstrap).mapError Failure.rejected)).outcome = _
  unfold Graph.source
  rw [hplan]
  rfl

end GraphScribe
