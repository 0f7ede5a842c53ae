import GraphScribe.Proofs.Program.Planning
import GraphScribe.Proofs.Program.Reader

/-!
# Programs say what their graphs say

The program of an accepted value, read back line by line, registers the steps of the graph under
their names and with their own bodies, and adds its edges, all in the order of the value and nothing
else (`readProgram_compile`). The two sides meet in the expressions of the plan: each was made from
an end of an edge, and is read as what that end stands for.
-/

namespace GraphScribe

/-- What an id stands for as an end of an edge: the markers for the entry and the exit, any other id
for its node, which goes by its name. -/
def Graph.endpoint? (g : Graph) (id : Text) : Option Endpoint :=
  if id = "START".toList then some .entry
  else if id = "END".toList then some .exit
  else (g.node? id).map fun n => .node n.name

/-- The two ends of an edge of a graph stand for the two ends of an edge that is read. -/
def EdgeMeans (g : Graph) (e : Edge) (ends : Endpoint × Endpoint) : Prop :=
  g.endpoint? e.source = some ends.1 ∧ g.endpoint? e.target = some ends.2

/-- The expression for an end of an edge is read as what the end stands for. -/
theorem ExpressionFor.exists_endpoint {g : Graph} {id x : Text} (h : ExpressionFor g id x) :
    ∃ c, g.endpoint? id = some c ∧ Endpoint.ofExpression? x = some c := by
  cases h with
  | marker hmarker =>
    rcases (isMarker_iff id).1 hmarker with rfl | rfl
    · exact ⟨.entry, rfl, rfl⟩
    · exact ⟨.exit, rfl, rfl⟩
  | @node n hmarker found =>
    -- the id of a node is no marker, and its literal is not spelled like one
    have bare : ¬ (id = "START".toList ∨ id = "END".toList) := by
      rw [← isMarker_iff, hmarker]
      simp
    rw [not_or] at bare
    refine ⟨.node n.name, ?_, Endpoint.ofExpression?_quoted n.name⟩
    unfold Graph.endpoint?
    rw [if_neg bare.1, if_neg bare.2, found]
    rfl

/-- The planned edges of a graph are read as the edges they were planned for, one by one. Induction
on the edges. -/
theorem exists_ends {g : Graph} {edges : List Edge} {planned : List PlannedEdge}
    (h : List.Forall₂ (EdgePlanned g) edges planned)
    (expressions : ∀ p ∈ planned, IsExpression p.source ∧ IsExpression p.target) :
    ∃ ends, List.Forall₂ Reading.EdgeReadAs planned ends ∧
      List.Forall₂ (EdgeMeans g) edges ends := by
  induction h with
  | nil => exact ⟨[], .nil, .nil⟩
  | cons hedge _ ih =>
    rw [List.forall_mem_cons] at expressions
    obtain ⟨ends, hread, hmeans⟩ := ih expressions.2
    obtain ⟨source, hsource, hsource'⟩ := hedge.source.exists_endpoint
    obtain ⟨target, htarget, htarget'⟩ := hedge.target.exists_endpoint
    have here := expressions.1
    exact ⟨(source, target) :: ends, .cons ⟨here.1, here.2, hsource', htarget'⟩ hread,
      .cons ⟨hsource, htarget⟩ hmeans⟩

theorem bootstrapSection_default :
    bootstrapSection defaultBootstrap = bootstrapLines.map String.toList := by decide +kernel

/-- A program says what its graph says: an accepted value is compiled, and its program is read to
the end, with the steps of the graph as the registered names and bodies, in their order, and the
edges of the graph as the edges, in their order and each as often as it is drawn. -/
theorem readProgram_compile {strict : Bool} {value : Json} {g : Graph}
    (h : (canonical strict value).outcome = .ok g) :
    value.Describes g ∧ ∃ source r, (compile strict none value).outcome = .ok source ∧
      readProgram (bootstrapLines.map String.toList) source = some r ∧
      r.registered = g.steps.map (fun n => (n.name, functionBody n.name n.code)) ∧
      List.Forall₂ (EdgeMeans g) g.edges r.edges := by
  obtain ⟨describes, -, -⟩ := (outcome_canonical_eq_ok_iff strict value g).1 h
  obtain ⟨plan, hplan, hcompile⟩ := exists_plan_of_canonical h
  obtain ⟨hnodes, hedges⟩ := (Plan.ofGraph_eq_ok_iff g plan).1 hplan
  have wellFormed := Plan.wellFormed_of_ofGraph hplan
  obtain ⟨ends, hread, hmeans⟩ := exists_ends hedges wellFormed.ends
  have last : ∃ c l, (bootstrapSection ((none : Option Text).getD defaultBootstrap)).getLast?
      = some (c :: l) := by
    show ∃ c l, (bootstrapSection defaultBootstrap).getLast? = some (c :: l)
    rw [bootstrapSection_default]
    exact ⟨' ', _, rfl⟩
  obtain ⟨_, _, hlast⟩ := last
  have whole := readProgram_source wellFormed hlast hread
  refine ⟨describes, plan.source none, ⟨.done, (plan.nodes.map Reading.readBody).reverse,
    plan.nodes.map fun p => (p.name, functionBody p.name p.code), ends⟩, hcompile none, ?_, ?_,
    hmeans⟩
  · rw [← bootstrapSection_default]
    exact whole
  · rw [hnodes]
    exact Plan.map_nodesOf g fun _ _ => rfl

theorem readProgram_compile_conversation :
    rawConversation.Describes conversation ∧
      ∃ source r, (compile false none rawConversation).outcome = .ok source ∧
        readProgram (bootstrapLines.map String.toList) source = some r ∧
        r.registered = conversation.steps.map (fun n => (n.name, functionBody n.name n.code)) ∧
        List.Forall₂ (EdgeMeans conversation) conversation.edges r.edges :=
  readProgram_compile outcome_canonical_rawConversation

end GraphScribe
