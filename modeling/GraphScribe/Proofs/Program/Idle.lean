import GraphScribe.Proofs.Graph.Editing
import GraphScribe.Proofs.Graph.Strict
import GraphScribe.Proofs.Json.Size
import GraphScribe.Proofs.Program.Faithful

/-!
# Idle nodes

A node is idle if it is no step and no edge ends at it. Nothing of it gets into the program: it can be
left out of the list of nodes, and it can be changed into any other node that is no step, and the
program stays as it is (`idle_invisible`).

## The architecture

* **`Graph.Pruned`**: what a graph and the same graph without an idle node have in common. The edges
  and the steps are the same, and no node that an edge ends at is missing.
* **`Graph.Pruned.sound`**, **`endVerdict_eq`**, **`warnings_eq`**: the structural check says the same
  of both, end by end.
* **`Graph.Pruned.ofGraph_iff`**: both have the same plan.
* **`accepted_withoutNode`**: a value without an idle node, so that a changed node is nothing but
  another node to be left out (`withoutNode_withNode`).
-/

namespace GraphScribe

/-! ## Graphs without idle nodes -/

/-- The node at the place `i` is idle: it is no step, and no edge ends at it. -/
structure Graph.Idle (g : Graph) (i : Nat) (n : Node) : Prop where
  here : g.nodes[i]? = some n
  other : n.type ≠ "NODE".toList
  untouched : n.id ∉ g.endIds

/-- The graph without its node at the place `i`. -/
def Graph.withoutNode (g : Graph) (i : Nat) : Graph := { g with nodes := g.nodes.eraseIdx i }

/-- The graph `g'` is `g` without some nodes that are no steps and that no edge ends at. -/
structure Graph.Pruned (g g' : Graph) : Prop where
  edges : g'.edges = g.edges
  nodes : g'.nodes.Sublist g.nodes
  steps : g'.steps = g.steps
  kept : ∀ n ∈ g.nodes, n.id ∈ g.endIds → n ∈ g'.nodes

/-- A list around its item at the place `i`. -/
theorem exists_around {α : Type} {xs : List α} {i : Nat} {x : α} (h : xs[i]? = some x) :
    ∃ front back, xs = front ++ x :: back ∧ xs.eraseIdx i = front ++ back := by
  obtain ⟨hi, rfl⟩ := List.getElem?_eq_some_iff.1 h
  refine ⟨xs.take i, xs.drop (i + 1), ?_, List.eraseIdx_eq_take_drop_succ xs i⟩
  rw [List.getElem_cons_drop, List.take_append_drop]

theorem Graph.Idle.pruned {g : Graph} {i : Nat} {n : Node} (h : g.Idle i n) :
    g.Pruned (g.withoutNode i) := by
  obtain ⟨front, back, whole, rest⟩ := exists_around h.here
  have noStep : ¬ n.isStep = true := fun hstep => h.other (n.isStep_iff.1 hstep)
  refine ⟨rfl, List.eraseIdx_sublist g.nodes i, ?_, fun m hm hid => ?_⟩
  · show (g.nodes.eraseIdx i).filter Node.isStep = g.nodes.filter Node.isStep
    rw [rest, whole, List.filter_append, List.filter_append, List.filter_cons_of_neg noStep]
  · show m ∈ g.nodes.eraseIdx i
    rw [rest]
    rw [whole, List.mem_append, List.mem_cons] at hm
    rcases hm with hm | rfl | hm
    · exact List.mem_append_left back hm
    · exact absurd hid h.untouched
    · exact List.mem_append_right front hm

namespace Graph.Pruned

variable {g g' : Graph}

theorem endIds_eq (h : g.Pruned g') : g'.endIds = g.endIds := by
  unfold endIds
  rw [h.edges]

theorem sound (h : g.Pruned g') {strict : Bool} (sound : g.Sound strict) : g'.Sound strict where
  ids_distinct := sound.ids_distinct.sublist (h.nodes.map Node.id)
  ids_free n hn := sound.ids_free n (h.nodes.mem hn)
  names_free n hn := sound.names_free n (h.nodes.mem hn)
  step_names_distinct := by
    show (g'.steps.map Node.name).Nodup
    rw [h.steps]
    exact sound.step_names_distinct
  ends_known id hid := by
    rw [h.endIds_eq] at hid
    rcases sound.ends_known id hid with hmarker | hmarker | ⟨n, hn, rfl⟩
    · exact Or.inl hmarker
    · exact Or.inr (Or.inl hmarker)
    · exact Or.inr (Or.inr ⟨n, h.kept n hn hid, rfl⟩)
  ends_own_name n hn hid hother m hm := by
    rw [h.endIds_eq] at hid
    exact sound.ends_own_name n (h.nodes.mem hn) hid hother m (h.nodes.mem hm)
  ends_steps hstrict n hn hid := by
    rw [h.endIds_eq] at hid
    exact sound.ends_steps hstrict n (h.nodes.mem hn) hid

/-- An end of an edge is looked up with the same result. -/
theorem node?_eq (h : g.Pruned g') {strict : Bool} (sound : g.Sound strict) {id : Text}
    (hid : id ∈ g.endIds) : g'.node? id = g.node? id := by
  ext n
  rw [(h.sound sound).node?_eq_some_iff, sound.node?_eq_some_iff]
  constructor
  · exact fun ⟨hn, heq⟩ => ⟨h.nodes.mem hn, heq⟩
  · exact fun ⟨hn, heq⟩ => ⟨h.kept n hn (heq ▸ hid), heq⟩

/-! ### The structural check -/

/-- No verdict on a sound graph names the place of a step, and the places of the nodes are all that
is lost. -/
theorem endVerdict_eq (h : g.Pruned g') {strict : Bool} (sound : g.Sound strict) {id : Text}
    (hid : id ∈ g.endIds) : endVerdict g'.nodes id = endVerdict g.nodes id := by
  have unborrowed : ∀ n, g.node? id = some n → n.isStep = false →
      stepNamed? n.name g.nodes = none ∧ stepNamed? n.name g'.nodes = none := by
    intro n hfound hother
    obtain ⟨hn, rfl⟩ := (sound.node?_eq_some_iff id n).1 hfound
    have noStep : n.type ≠ "NODE".toList := by
      rw [Ne, ← n.isStep_iff, hother]
      simp
    have own : n.name ∉ g.steps.map Node.name := by
      intro hname
      obtain ⟨m, hm, hsame⟩ := List.mem_map.1 hname
      obtain ⟨hm, hstep⟩ := List.mem_filter.1 hm
      exact sound.ends_own_name n hn hid noStep m hm (m.isStep_iff.1 hstep) hsame
    refine ⟨(stepNamed?_eq_none_iff _ _).2 own, (stepNamed?_eq_none_iff _ _).2 ?_⟩
    show n.name ∉ g'.steps.map Node.name
    rw [h.steps]
    exact own
  have same : g'.nodes.find? (·.id == id) = g.node? id := h.node?_eq sound hid
  unfold endVerdict
  rw [same, show g.nodes.find? (·.id == id) = g.node? id from rfl]
  cases hfound : g.node? id with
  | none => rfl
  | some n =>
    dsimp only
    cases hstep : n.isStep with
    | true => rfl
    | false => rw [(unborrowed n hfound hstep).1, (unborrowed n hfound hstep).2]

theorem warnings_eq (h : g.Pruned g') {strict : Bool} (sound : g.Sound strict) :
    (checked strict g').warnings = (checked strict g).warnings := by
  have faultless : ∀ {g : Graph}, g.Sound strict → firstNodeFault? [] g.nodes = none :=
    fun sound => (firstNodeFault?_eq_none_iff nodesSound_nil _).2 sound.toNodesSound
  have verdicts : endVerdicts g' = endVerdicts g := by
    unfold endVerdicts
    rw [h.edges]
    refine List.map_congr_left fun pair hpair => ?_
    have hid : pair.2 ∈ g.endIds := by
      rw [← g.map_snd_edgeEnds]
      exact List.mem_map_of_mem hpair
    show (pair.1, endVerdict g'.nodes pair.2) = (pair.1, endVerdict g.nodes pair.2)
    rw [h.endVerdict_eq sound hid]
  rw [warnings_checked, warnings_checked]
  unfold checkStructure
  rw [faultless sound, faultless (h.sound sound), verdicts]

/-! ### The plan -/

theorem expressionFor_iff (h : g.Pruned g') {strict : Bool} (sound : g.Sound strict) {id : Text}
    (hid : id ∈ g.endIds) (x : Text) : ExpressionFor g' id x ↔ ExpressionFor g id x := by
  rw [← Plan.endExpression_eq_ok_iff g' .graph, ← Plan.endExpression_eq_ok_iff g .graph]
  unfold Plan.endExpression
  rw [h.node?_eq sound hid]

/-- Nothing that is pruned gets into the plan. -/
theorem ofGraph_iff (h : g.Pruned g') {strict : Bool} (sound : g.Sound strict) (plan : Plan) :
    Plan.ofGraph g' = .ok plan ↔ Plan.ofGraph g = .ok plan := by
  have nodes : Plan.nodesOf g' = Plan.nodesOf g := by
    unfold Plan.nodesOf
    rw [h.steps]
  have edges : List.Forall₂ (EdgePlanned g') g.edges plan.edges ↔
      List.Forall₂ (EdgePlanned g) g.edges plan.edges := by
    refine forall₂_iff_of_forall_mem fun e he p => ?_
    have source := h.expressionFor_iff sound (g.source_mem_endIds he) p.source
    have target := h.expressionFor_iff sound (g.target_mem_endIds he) p.target
    constructor
    · exact fun planned => ⟨source.1 planned.source, target.1 planned.target⟩
    · exact fun planned => ⟨source.2 planned.source, target.2 planned.target⟩
  rw [Plan.ofGraph_eq_ok_iff, Plan.ofGraph_eq_ok_iff, nodes, h.edges, edges]

end Graph.Pruned

/-! ## Values without idle nodes -/

/-- Both values are compiled, and to the same program with any bootstrap fragment. -/
def CompiledAlike (strict : Bool) (value value' : Json) : Prop :=
  ∀ bootstrap, ∃ source, (compile strict bootstrap value).outcome = .ok source ∧
    (compile strict bootstrap value').outcome = .ok source

namespace CompiledAlike

variable {strict : Bool} {value value' value'' : Json}

theorem symm (h : CompiledAlike strict value value') : CompiledAlike strict value' value := by
  intro bootstrap
  obtain ⟨source, hsource, hsource'⟩ := h bootstrap
  exact ⟨source, hsource', hsource⟩

theorem trans (h : CompiledAlike strict value value') (h' : CompiledAlike strict value' value'') :
    CompiledAlike strict value value'' := by
  intro bootstrap
  obtain ⟨source, hsource, hsource'⟩ := h bootstrap
  obtain ⟨again, hagain, hsource''⟩ := h' bootstrap
  rw [hsource', Except.ok.injEq] at hagain
  exact ⟨source, hsource, hagain ▸ hsource''⟩

end CompiledAlike

namespace Json

/-- The value without the node that it lists at the place `i`. -/
def withoutNode (value : Json) (i : Nat) : Json := value.mapNodes (·.eraseIdx i)

/-- The value with another item in place of the node that it lists at the place `i`. -/
def withNode (value : Json) (i : Nat) (item : Json) : Json := value.mapNodes (·.set i item)

/-- What stood at a place does not matter to a value without it. -/
theorem withoutNode_withNode (value : Json) (i : Nat) (item : Json) :
    (value.withNode i item).withoutNode i = value.withoutNode i := by
  unfold withoutNode withNode
  rw [mapNodes_mapNodes]
  exact congrArg (value.mapNodes ·) (funext fun _ => List.eraseIdx_set_eq)

theorem Describes.withoutNode {value : Json} {g : Graph} (h : value.Describes g) (i : Nat) :
    (value.withoutNode i).Describes (g.withoutNode i) := by
  rw [describes_iff] at h ⊢
  obtain ⟨nodes, edges, lists, fewNodes, fewEdges, hnodes, hedges⟩ := h
  have fewer := (List.eraseIdx_sublist nodes i).length_le
  have related : List.Forall₂ NodeOf (nodes.eraseIdx i) (g.nodes.eraseIdx i) := by
    rw [List.eraseIdx_eq_take_drop_succ, List.eraseIdx_eq_take_drop_succ]
    exact List.rel_append (List.forall₂_take i hnodes) (List.forall₂_drop (i + 1) hnodes)
  exact ⟨nodes.eraseIdx i, edges, (lists_mapNodes_iff rfl value _ _).2 ⟨nodes, lists, rfl⟩,
    by omega, fewEdges, related, hedges⟩

end Json

section

variable {strict : Bool} {value : Json} {g : Graph} {i : Nat} {n : Node}

/-- A value is accepted without an idle node, with the same warnings, and compiled to the same
program. -/
theorem accepted_withoutNode (h : (canonical strict value).outcome = .ok g) (idle : g.Idle i n) :
    (canonical strict (value.withoutNode i)).outcome = .ok (g.withoutNode i) ∧
      (canonical strict (value.withoutNode i)).warnings = (canonical strict value).warnings ∧
      CompiledAlike strict value (value.withoutNode i) := by
  obtain ⟨describes, small, sound⟩ := (outcome_canonical_eq_ok_iff strict value g).1 h
  have pruned := idle.pruned
  have smaller : (g.withoutNode i).octets ≤ 200000 :=
    (Graph.octets_le_of_sublist pruned.nodes (List.Sublist.refl _)).trans small
  have accepted : (canonical strict (value.withoutNode i)).outcome = .ok (g.withoutNode i) :=
    (outcome_canonical_eq_ok_iff _ _ _).2 ⟨describes.withoutNode i, smaller, pruned.sound sound⟩
  refine ⟨accepted, ?_, fun bootstrap => ?_⟩
  · rw [canonical_eq_checked (describes.withoutNode i) smaller, canonical_eq_checked describes small,
      pruned.warnings_eq sound]
  · obtain ⟨plan, hplan, hsource⟩ := exists_plan_of_canonical h
    obtain ⟨plan', hplan', hsource'⟩ := exists_plan_of_canonical accepted
    rw [pruned.ofGraph_iff sound, hplan, Except.ok.injEq] at hplan'
    exact ⟨plan.source bootstrap, hsource bootstrap, hplan' ▸ hsource' bootstrap⟩

end

/-! ## Values with another node in place of an idle one -/

/-- A program is read as the steps that it was made of. -/
theorem exists_reading {g : Graph} {plan : Plan} (h : Plan.ofGraph g = .ok plan) :
    ∃ r, readProgram (bootstrapSection defaultBootstrap) (plan.source none) = some r ∧
      r.registered = g.steps.map (fun n => (n.name, functionBody n.name n.code)) := by
  have wellFormed := Plan.wellFormed_of_ofGraph h
  obtain ⟨hnodes, hedges⟩ := (Plan.ofGraph_eq_ok_iff g plan).1 h
  obtain ⟨ends, hread, -⟩ := exists_ends hedges wellFormed.ends
  have last : ∃ c l, (bootstrapSection ((none : Option Text).getD defaultBootstrap)).getLast?
      = some (c :: l) := by
    show ∃ c l, (bootstrapSection defaultBootstrap).getLast? = some (c :: l)
    rw [bootstrapSection_default]
    exact ⟨' ', _, rfl⟩
  obtain ⟨_, _, hlast⟩ := last
  refine ⟨_, readProgram_source wellFormed hlast hread, ?_⟩
  show plan.nodes.map (fun p => (p.name, functionBody p.name p.code)) = _
  rw [hnodes]
  exact Plan.map_nodesOf g fun _ _ => rfl

/-- The programs of two graphs differ unless the graphs have the same steps, but for their ids. -/
theorem registered_eq_of_source_eq {g g' : Graph} {plan plan' : Plan}
    (h : Plan.ofGraph g = .ok plan) (h' : Plan.ofGraph g' = .ok plan')
    (same : plan.source none = plan'.source none) :
    g.steps.map (fun n => (n.name, functionBody n.name n.code))
      = g'.steps.map (fun n => (n.name, functionBody n.name n.code)) := by
  obtain ⟨r, hr, steps⟩ := exists_reading h
  obtain ⟨r', hr', steps'⟩ := exists_reading h'
  rw [same, hr', Option.some.injEq] at hr
  rw [← steps, ← steps', hr]

section

variable {strict : Bool} {value item : Json} {g g' : Graph} {i : Nat} {n n' : Node}

theorem withoutNode_eq_of_withNode (h : value.Describes g)
    (h' : (value.withNode i item).Describes g') : g'.withoutNode i = g.withoutNode i := by
  have rest := h'.withoutNode i
  rw [Json.withoutNode_withNode] at rest
  exact rest.unique (h.withoutNode i)

/-- The node that takes the place of an idle one is idle too if it is no step: every end of an edge
is the id of a node at another place. -/
theorem idle_of_withNode (h : (canonical strict value).outcome = .ok g) (idle : g.Idle i n)
    (h' : (canonical strict (value.withNode i item)).outcome = .ok g')
    (here : g'.nodes[i]? = some n') (other : n'.type ≠ "NODE".toList) : g'.Idle i n' := by
  obtain ⟨describes, -, sound⟩ := (outcome_canonical_eq_ok_iff strict value g).1 h
  obtain ⟨describes', -, sound'⟩ := (outcome_canonical_eq_ok_iff strict _ g').1 h'
  have rest := withoutNode_eq_of_withNode describes describes'
  have nodes : g'.nodes.eraseIdx i = (g.withoutNode i).nodes := congrArg Graph.nodes rest
  have ends : g'.endIds = (g.withoutNode i).endIds := by
    rw [← rest]
    rfl
  refine ⟨here, other, fun hid => ?_⟩
  obtain ⟨front, back, whole, around⟩ := exists_around here
  have distinct : ((n' :: (front ++ back)).map Node.id).Nodup :=
    ((List.perm_middle.map Node.id).nodup_iff).1 (whole ▸ sound'.ids_distinct)
  have free := sound'.ids_free n' (List.mem_of_getElem? here)
  rw [ends] at hid
  rcases (idle.pruned.sound sound).ends_known n'.id hid with hstart | hend | ⟨m, hm, hsame⟩
  · exact free.1 hstart
  · exact free.2 hend
  · have hm' : m ∈ front ++ back := by
      rwa [← around, nodes]
    rw [List.map_cons, List.nodup_cons] at distinct
    exact distinct.1 (hsame ▸ List.mem_map_of_mem hm')

/-- A step in the place of an idle node is one step more, and the program tells. -/
theorem not_compiledAlike_of_step (h : (canonical strict value).outcome = .ok g) (idle : g.Idle i n)
    (h' : (canonical strict (value.withNode i item)).outcome = .ok g')
    (here : g'.nodes[i]? = some n') (step : n'.type = "NODE".toList) :
    ¬ CompiledAlike strict value (value.withNode i item) := by
  intro alike
  obtain ⟨describes, -, -⟩ := (outcome_canonical_eq_ok_iff strict value g).1 h
  obtain ⟨describes', -, -⟩ := (outcome_canonical_eq_ok_iff strict _ g').1 h'
  have rest := withoutNode_eq_of_withNode describes describes'
  have more : g'.steps.length = (g'.withoutNode i).steps.length + 1 := by
    obtain ⟨front, back, whole, around⟩ := exists_around here
    show (g'.nodes.filter Node.isStep).length = ((g'.nodes.eraseIdx i).filter Node.isStep).length + 1
    rw [around, whole, List.filter_append, List.filter_append,
      List.filter_cons_of_pos (n'.isStep_iff.2 step), List.length_append, List.length_append,
      List.length_cons]
    omega
  have fewer : (g'.withoutNode i).steps.length = g.steps.length := by
    rw [rest, idle.pruned.steps]
  obtain ⟨plan, hplan, hsource⟩ := exists_plan_of_canonical h
  obtain ⟨plan', hplan', hsource'⟩ := exists_plan_of_canonical h'
  obtain ⟨source, hplain, hplain'⟩ := alike none
  rw [hsource none, Except.ok.injEq] at hplain
  rw [hsource' none, Except.ok.injEq] at hplain'
  have steps := congrArg List.length
    (registered_eq_of_source_eq hplan hplan' (hplain.trans hplain'.symm))
  rw [List.length_map, List.length_map] at steps
  omega

/-- An idle node leaves no trace. Without it a value is accepted with the same warnings and compiled
to the same program; and with anything else in its place that is accepted as some node, the program
stays the same exactly as long as that node is no step. -/
theorem idle_invisible (h : (canonical strict value).outcome = .ok g) (idle : g.Idle i n) :
    ((canonical strict (value.withoutNode i)).outcome = .ok (g.withoutNode i) ∧
      (canonical strict (value.withoutNode i)).warnings = (canonical strict value).warnings ∧
      CompiledAlike strict value (value.withoutNode i)) ∧
    ∀ item g' n', (canonical strict (value.withNode i item)).outcome = .ok g' →
      g'.nodes[i]? = some n' →
      (CompiledAlike strict value (value.withNode i item) ↔ n'.type ≠ "NODE".toList) := by
  have without := accepted_withoutNode h idle
  refine ⟨without, fun item g' n' h' here => ⟨fun alike step => ?_, fun other => ?_⟩⟩
  · exact not_compiledAlike_of_step h idle h' here step alike
  · -- both are compiled as the one value that lacks the place
    have without' := accepted_withoutNode h' (idle_of_withNode h idle h' here other)
    rw [Json.withoutNode_withNode] at without'
    exact without.2.2.trans without'.2.2.symm

end

/-- A node that can stand in place of the note in `rawConversation`. -/
def rawRemark : Json :=
  .object [Json.field "id" (.text "remark".toList), Json.field "type" (.text "REMARK".toList),
    Json.field "label" (.text "tell".toList), Json.field "code" (.text "def tell(): pass".toList)]

theorem idle_invisible_conversation :
    (canonical false (rawConversation.withoutNode 3)).outcome = .ok (conversation.withoutNode 3) ∧
      (canonical false (rawConversation.withoutNode 3)).warnings
        = (canonical false rawConversation).warnings ∧
      CompiledAlike false rawConversation (rawConversation.withoutNode 3) ∧
      CompiledAlike false rawConversation (rawConversation.withNode 3 rawRemark) := by
  have memo : conversation.Idle 3 ⟨"memo".toList, "NOTE".toList, some "say, it's".toList, none⟩ :=
    ⟨rfl, by decide, by decide⟩
  have changed : (canonical false (rawConversation.withNode 3 rawRemark)).outcome
      = .ok ⟨conversation.nodes.set 3 ⟨"remark".toList, "REMARK".toList, some "tell".toList,
          some "def tell(): pass".toList⟩, conversation.edges⟩ :=
    eq_ok_of_toOption (by decide +kernel)
  obtain ⟨⟨accepted, warnings, alike⟩, replaced⟩ :=
    idle_invisible outcome_canonical_rawConversation memo
  exact ⟨accepted, warnings, alike, (replaced rawRemark _ _ changed rfl).2 (by decide)⟩

end GraphScribe
