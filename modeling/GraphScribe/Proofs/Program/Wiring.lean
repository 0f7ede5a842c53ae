import GraphScribe.Proofs.Program.Planning

/-!
# How the edges of a program meet its nodes

The structural check knows ids, types and names; the plan knows expressions only. Here the two are
brought together (`endWired_of_expression`): in the assembly of an accepted graph, the expression for
a step is the literal of its own registration and of no other, and the expression for any other
node is the literal of no registration, whatever labels the nodes share.
-/

namespace GraphScribe

/-! ## Statements of the assembly -/

/-- What a statement registers: the literal of a name, and a function. -/
def Statement.registration? : Statement → Option (Text × Text)
  | .addNode literal f => some (literal, f)
  | _ => none

/-- What a statement connects: two expressions. -/
def Statement.connection? : Statement → Option (Text × Text)
  | .addEdge source target => some (source, target)
  | _ => none

namespace Plan

/-- The statements on the lines of the assembly of a plan. -/
def statements (plan : Plan) : List Statement :=
  (assemblySection plan).filterMap Statement.ofLine?

/-- What the assembly of a plan registers. -/
def registered (plan : Plan) : List (Text × Text) :=
  plan.statements.filterMap Statement.registration?

/-- What the assembly of a plan connects. -/
def connected (plan : Plan) : List (Text × Text) :=
  plan.statements.filterMap Statement.connection?

/-- The literals of the names that the assembly of a plan registers. -/
def nameLiterals (plan : Plan) : List Text := plan.registered.map Prod.fst

variable {plan : Plan}

theorem WellFormed.statements_eq (h : plan.WellFormed) :
    plan.statements = [.construction]
      ++ plan.nodes.map (fun p => .addNode (quoted p.name) p.function)
      ++ plan.edges.map (fun e => .addEdge e.source e.target) ++ [.finalization] := by
  have registrations : (plan.nodes.map fun p => registration p.name p.function).filterMap
      Statement.ofLine? = plan.nodes.map fun p => .addNode (quoted p.name) p.function := by
    rw [List.filterMap_map, ← List.filterMap_eq_map]
    refine List.filterMap_congr fun p hp => ?_
    exact ofLine?_registration p.name (h.functions p hp)
  have gap : (edgeGap plan).filterMap Statement.ofLine? = [] := by
    unfold edgeGap
    split <;> decide
  have connections : (plan.edges.map connection).filterMap Statement.ofLine?
      = plan.edges.map fun e => .addEdge e.source e.target := by
    rw [List.filterMap_map, ← List.filterMap_eq_map]
    refine List.filterMap_congr fun e he => ?_
    exact ofLine?_connection (h.ends e he).1 (h.ends e he).2
  have opening : [construction].filterMap Statement.ofLine? = [.construction] := by decide
  have closing : [[], finalization].filterMap Statement.ofLine? = [.finalization] := by decide
  unfold statements
  rw [assemblySection_eq h.steps]
  simp only [List.filterMap_append]
  rw [registrations, gap, connections, opening, closing, List.append_nil]

theorem WellFormed.registered_eq (h : plan.WellFormed) :
    plan.registered = plan.nodes.map fun p => (quoted p.name, p.function) := by
  unfold registered
  rw [h.statements_eq]
  have edges : (plan.edges.map fun e => Statement.addEdge e.source e.target).filterMap
      Statement.registration? = [] := by
    rw [List.filterMap_map, List.filterMap_eq_nil_iff]
    exact fun e _ => rfl
  have opening : [Statement.construction].filterMap Statement.registration? = [] := rfl
  have closing : [Statement.finalization].filterMap Statement.registration? = [] := rfl
  rw [List.filterMap_append, List.filterMap_append, List.filterMap_append, opening, edges, closing,
    List.append_nil, List.append_nil, List.nil_append, List.filterMap_map]
  exact congrFun List.filterMap_eq_map plan.nodes

theorem WellFormed.connected_eq (h : plan.WellFormed) :
    plan.connected = plan.edges.map fun e => (e.source, e.target) := by
  unfold connected
  rw [h.statements_eq]
  have nodes : (plan.nodes.map fun p => Statement.addNode (quoted p.name) p.function).filterMap
      Statement.connection? = [] := by
    rw [List.filterMap_map, List.filterMap_eq_nil_iff]
    exact fun p _ => rfl
  have opening : [Statement.construction].filterMap Statement.connection? = [] := rfl
  have closing : [Statement.finalization].filterMap Statement.connection? = [] := rfl
  rw [List.filterMap_append, List.filterMap_append, List.filterMap_append, opening, nodes, closing,
    List.append_nil, List.nil_append, List.filterMap_map]
  exact congrFun List.filterMap_eq_map plan.edges

theorem nameLiterals_eq {g : Graph} (h : ofGraph g = .ok plan) :
    plan.nameLiterals = g.steps.map fun n => quoted n.name := by
  unfold nameLiterals
  rw [(wellFormed_of_ofGraph h).registered_eq, ((ofGraph_eq_ok_iff g plan).1 h).1, List.map_map]
  exact map_nodesOf g fun _ _ => rfl

theorem nodup_nameLiterals {g : Graph} (h : ofGraph g = .ok plan) {strict : Bool}
    (sound : g.Sound strict) : plan.nameLiterals.Nodup := by
  -- distinct names have distinct literals, since a literal is read as one text only
  have names : (g.steps.map Node.name).Nodup := sound.step_names_distinct
  rw [nameLiterals_eq h]
  have literals := names.map quoted_injective
  rwa [List.map_map] at literals

end Plan

/-! ## The ends of the edges -/

/-- A literal of a name that a running graph does not keep for itself, and that is not spelled like
one of the bare markers. -/
def IsNodeLiteral (x : Text) : Prop :=
  (∃ name, literalValue? x = some name ∧ name ≠ "__start__".toList ∧ name ≠ "__end__".toList) ∧
    x ≠ "START".toList ∧ x ≠ "END".toList

/-- How the expression `x` for the end `id` of an edge meets the registrations of a plan. A marker
stays as it is, and anything else is a literal. The literal of a step is that of exactly one
registration, which is its own; the literal of any other node is that of none. A strict graph has
no other nodes at its edges. -/
structure EndWired (strict : Bool) (g : Graph) (plan : Plan) (id x : Text) : Prop where
  known : id = "START".toList ∨ id = "END".toList ∨ ∃ n ∈ g.nodes, n.id = id
  marker : id = "START".toList ∨ id = "END".toList → x = id
  literal : id ≠ "START".toList → id ≠ "END".toList → IsNodeLiteral x
  step : ∀ n ∈ g.nodes, n.id = id → n.type = "NODE".toList →
    plan.nameLiterals.count x = 1 ∧ ∃ p ∈ plan.nodes, p.id = n.id ∧ (x, p.function) ∈ plan.registered
  other : ∀ n ∈ g.nodes, n.id = id → n.type ≠ "NODE".toList → x ∉ plan.nameLiterals
  registered_if_strict : strict = true →
    x = "START".toList ∨ x = "END".toList ∨ plan.nameLiterals.count x = 1

theorem Graph.Sound.isNodeLiteral {strict : Bool} {g : Graph} (h : g.Sound strict) {n : Node}
    (hn : n ∈ g.nodes) : IsNodeLiteral (quoted n.name) := by
  have free := h.names_free n hn
  have bare := isMarker_quoted n.name
  rw [← Bool.not_eq_true, isMarker_iff, not_or] at bare
  exact ⟨⟨n.name, literalValue?_quoted n.name, free.1, free.2⟩, bare.1, bare.2⟩

/-- The literal of a step is that of exactly one registration, and this registers the function
that was planned for the step. -/
theorem count_nameLiterals_of_step {strict : Bool} {g : Graph} {plan : Plan}
    (hplan : Plan.ofGraph g = .ok plan) (sound : g.Sound strict) {n : Node} (hn : n ∈ g.nodes)
    (hstep : n.type = "NODE".toList) :
    plan.nameLiterals.count (quoted n.name) = 1 ∧
      ∃ p ∈ plan.nodes, p.id = n.id ∧ (quoted n.name, p.function) ∈ plan.registered := by
  have member : n ∈ g.steps := List.mem_filter.2 ⟨hn, n.isStep_iff.2 hstep⟩
  constructor
  · apply List.count_eq_one_of_mem (Plan.nodup_nameLiterals hplan sound)
    rw [Plan.nameLiterals_eq hplan]
    exact List.mem_map.2 ⟨n, member, rfl⟩
  · -- the plan keeps the ids and names of the steps, so one of its nodes is this one
    have wellFormed := Plan.wellFormed_of_ofGraph hplan
    have pairs : plan.nodes.map (fun p => (p.id, p.name)) = g.steps.map fun n => (n.id, n.name) := by
      rw [((Plan.ofGraph_eq_ok_iff g plan).1 hplan).1]
      exact Plan.map_nodesOf g fun _ _ => rfl
    have planned : (n.id, n.name) ∈ plan.nodes.map fun p => (p.id, p.name) := by
      rw [pairs]
      exact List.mem_map.2 ⟨n, member, rfl⟩
    obtain ⟨p, hp, heq⟩ := List.mem_map.1 planned
    obtain ⟨hid, hname⟩ := Prod.mk.inj heq
    refine ⟨p, hp, hid, ?_⟩
    rw [wellFormed.registered_eq, ← hname]
    exact List.mem_map.2 ⟨p, hp, rfl⟩

/-- The literal of a node at an edge that is no step is that of no registration: the check has
found no step under its name. -/
theorem not_mem_nameLiterals_of_other {strict : Bool} {g : Graph} {plan : Plan}
    (hplan : Plan.ofGraph g = .ok plan) (sound : g.Sound strict) {n : Node} (hn : n ∈ g.nodes)
    (hend : n.id ∈ g.endIds) (hother : n.type ≠ "NODE".toList) :
    quoted n.name ∉ plan.nameLiterals := by
  rw [Plan.nameLiterals_eq hplan]
  intro hmem
  obtain ⟨m, hm, heq⟩ := List.mem_map.1 hmem
  obtain ⟨hm, hstep⟩ := List.mem_filter.1 hm
  exact sound.ends_own_name n hn hend hother m hm (m.isStep_iff.1 hstep) (quoted_injective heq)

theorem endWired_of_expression {strict : Bool} {g : Graph} {plan : Plan}
    (hplan : Plan.ofGraph g = .ok plan) (sound : g.Sound strict) {id x : Text}
    (hend : id ∈ g.endIds) (h : ExpressionFor g id x) : EndWired strict g plan id x := by
  cases h with
  | marker hmarker =>
    have bare := (isMarker_iff id).1 hmarker
    -- no node has the id of a marker, so nothing is asked of nodes here
    have no_node : ∀ n ∈ g.nodes, n.id ≠ id := by
      rintro n hn rfl
      have free := sound.ids_free n hn
      rcases bare with hstart | hend
      · exact free.1 hstart
      · exact free.2 hend
    refine ⟨?_, fun _ => rfl, ?_, fun n hn hid => absurd hid (no_node n hn),
      fun n hn hid => absurd hid (no_node n hn), ?_⟩
    · exact sound.ends_known id hend
    · rintro hstart hend
      rcases bare with h | h
      · exact absurd h hstart
      · exact absurd h hend
    · intro _
      rcases bare with h | h
      · exact Or.inl h
      · exact Or.inr (Or.inl h)
  | @node n hmarker found =>
    obtain ⟨hn, hid⟩ := (sound.node?_eq_some_iff id n).1 found
    -- ids are distinct, so the node that was looked up is the only one with this id
    have only : ∀ m ∈ g.nodes, m.id = id → m = n := fun m hm hid' =>
      List.inj_on_of_nodup_map sound.ids_distinct hm hn (hid'.trans hid.symm)
    refine ⟨Or.inr (Or.inr ⟨n, hn, hid⟩), ?_, fun _ _ => sound.isNodeLiteral hn, ?_, ?_, ?_⟩
    · intro hbare
      rw [(isMarker_iff id).2 hbare] at hmarker
      exact absurd hmarker (by simp)
    · intro m hm hid' hstep
      rw [only m hm hid'] at hstep ⊢
      exact count_nameLiterals_of_step hplan sound hn hstep
    · intro m hm hid' hother
      rw [only m hm hid'] at hother
      exact not_mem_nameLiterals_of_other hplan sound hn (hid ▸ hend) hother
    · -- a strict graph has been checked to have no other nodes at its edges
      intro hstrict
      have hstep := sound.ends_steps hstrict n hn (hid ▸ hend)
      exact Or.inr (Or.inr (count_nameLiterals_of_step hplan sound hn hstep).1)

/-- Every edge of a sound graph is connected in the assembly, with both its ends wired as they
should be. -/
theorem forall₂_endWired {strict : Bool} {g : Graph} {plan : Plan}
    (hplan : Plan.ofGraph g = .ok plan) (sound : g.Sound strict) :
    List.Forall₂ (fun e c => EndWired strict g plan e.source c.1 ∧
      EndWired strict g plan e.target c.2) g.edges plan.connected := by
  have planned := ((Plan.ofGraph_eq_ok_iff g plan).1 hplan).2
  have members := (List.forall₂_and_left g.edges plan.edges).2 ⟨fun _ he => he, planned⟩
  rw [(Plan.wellFormed_of_ofGraph hplan).connected_eq, List.forall₂_map_right_iff]
  refine members.imp fun e p hedge => ?_
  obtain ⟨he, hp⟩ := hedge
  exact ⟨endWired_of_expression hplan sound (g.source_mem_endIds he) hp.source,
    endWired_of_expression hplan sound (g.target_mem_endIds he) hp.target⟩

/-- The edges of the program of an accepted value meet its nodes as they should, edge by edge, and
every registered name is one that it may have. -/
theorem exists_plan_wired {strict : Bool} {value : Json} {g : Graph}
    (h : (canonical strict value).outcome = .ok g) :
    ∃ plan, Plan.ofGraph g = .ok plan ∧
      (∀ bootstrap, (compile strict bootstrap value).outcome = .ok (plan.source bootstrap)) ∧
      List.Forall₂ (fun e c => EndWired strict g plan e.source c.1 ∧
        EndWired strict g plan e.target c.2) g.edges plan.connected ∧
      ∀ x ∈ plan.nameLiterals, IsNodeLiteral x := by
  obtain ⟨-, -, sound⟩ := (outcome_canonical_eq_ok_iff strict value g).1 h
  obtain ⟨plan, hplan, hcompile⟩ := exists_plan_of_canonical h
  refine ⟨plan, hplan, hcompile, forall₂_endWired hplan sound, ?_⟩
  rw [Plan.nameLiterals_eq hplan, List.forall_mem_map]
  exact fun n hn => sound.isNodeLiteral (List.mem_filter.1 hn).1

theorem exists_plan_wired_conversation :
    ∃ plan, Plan.ofGraph conversation = .ok plan ∧
      (∀ bootstrap, (compile false bootstrap rawConversation).outcome
        = .ok (plan.source bootstrap)) ∧
      List.Forall₂ (fun e c => EndWired false conversation plan e.source c.1 ∧
        EndWired false conversation plan e.target c.2) conversation.edges plan.connected ∧
      ∀ x ∈ plan.nameLiterals, IsNodeLiteral x :=
  exists_plan_wired outcome_canonical_rawConversation

end GraphScribe
