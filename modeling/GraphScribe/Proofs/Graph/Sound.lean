import GraphScribe.Graph.Structure
import Mathlib.Data.List.Nodup

/-!
# Sound graphs

What it means for a graph to be in order, said of the graph as a whole and without the order in
which anything is looked at, and that the structural check finds a fault in exactly the graphs that
are not (`checkStructure_eq_none_iff`).

## The architecture

* **`NodesSound`** — what the nodes owe each other. It passes to a front part of the nodes, and one
  more node keeps it exactly when that node is `FreshAfter` the others.
* **`firstNodeFault?_eq_none_iff`** — the walk over the nodes, by induction, one `FreshAfter` a step.
* **`judge_eq_none_iff`** — the walk over the ends of the edges: it fails at the first end that is
  not `Allowed`.
* **`endVerdict_allowed_iff`** — the verdict on one end, once the ids are known to be distinct, so
  that the first node with an id is the only one.
-/

namespace GraphScribe

/-- The ids that the edges of a graph end at, each source before its target. -/
def Graph.endIds (g : Graph) : List Text := g.edges.flatMap fun e => [e.source, e.target]

theorem Graph.source_mem_endIds (g : Graph) {e : Edge} (h : e ∈ g.edges) : e.source ∈ g.endIds :=
  List.mem_flatMap.2 ⟨e, h, List.mem_cons_self⟩

theorem Graph.target_mem_endIds (g : Graph) {e : Edge} (h : e ∈ g.edges) : e.target ∈ g.endIds :=
  List.mem_flatMap.2 ⟨e, h, List.mem_cons_of_mem _ List.mem_cons_self⟩

/-- What some nodes owe each other: distinct ids, none of them a marker; no name that a running
graph keeps for itself; and distinct names for the steps. -/
structure NodesSound (nodes : List Node) : Prop where
  ids_distinct : (nodes.map Node.id).Nodup
  ids_free : ∀ n ∈ nodes, n.id ≠ "START".toList ∧ n.id ≠ "END".toList
  names_free : ∀ n ∈ nodes, n.name ≠ "__start__".toList ∧ n.name ≠ "__end__".toList
  step_names_distinct : ((nodes.filter Node.isStep).map Node.name).Nodup

/-- What the nodes and the edges of a graph owe each other: sound nodes; every end of an edge a
marker or the id of a node; no end at a node that borrows the name of a step without being one;
and, in a strict graph, no end at a node that is no step. -/
structure Graph.Sound (strict : Bool) (g : Graph) : Prop extends NodesSound g.nodes where
  ends_known : ∀ id ∈ g.endIds,
    id = "START".toList ∨ id = "END".toList ∨ ∃ n ∈ g.nodes, n.id = id
  ends_own_name : ∀ n ∈ g.nodes, n.id ∈ g.endIds → n.type ≠ "NODE".toList →
    ∀ m ∈ g.nodes, m.type = "NODE".toList → m.name ≠ n.name
  ends_steps : strict = true → ∀ n ∈ g.nodes, n.id ∈ g.endIds → n.type = "NODE".toList

/-! ## The fixed names -/

theorem isMarker_iff (id : Text) :
    isMarker id = true ↔ id = "START".toList ∨ id = "END".toList := by
  unfold isMarker
  simp only [Bool.or_eq_true, beq_iff_eq]
  exact Iff.rfl

theorem mem_runtimeNames_iff (name : Text) :
    name ∈ runtimeNames ↔ name = "__start__".toList ∨ name = "__end__".toList := by
  unfold runtimeNames
  simp only [List.mem_cons, List.not_mem_nil, or_false]

theorem Node.isStep_iff (n : Node) : n.isStep = true ↔ n.type = "NODE".toList := by
  unfold Node.isStep
  rw [beq_iff_eq]
  exact Iff.rfl

theorem stepNamed?_eq_none_iff (name : Text) (nodes : List Node) :
    stepNamed? name nodes = none ↔ name ∉ (nodes.filter Node.isStep).map Node.name := by
  unfold stepNamed? indexWhere?
  rw [List.findIdx?_eq_none_iff]
  simp only [List.mem_map, List.mem_filter, not_exists, not_and, Bool.and_eq_false_imp,
    beq_eq_false_iff_ne, ne_eq, and_imp]

/-! ## The walk over the nodes -/

/-- A node that may follow the nodes `earlier`. -/
structure FreshAfter (earlier : List Node) (n : Node) : Prop where
  id_free : n.id ≠ "START".toList ∧ n.id ≠ "END".toList
  id_new : n.id ∉ earlier.map Node.id
  name_free : n.name ≠ "__start__".toList ∧ n.name ≠ "__end__".toList
  step_name_new : n.isStep = true → n.name ∉ (earlier.filter Node.isStep).map Node.name

theorem nodesSound_nil : NodesSound [] where
  ids_distinct := List.nodup_nil
  ids_free := by simp
  names_free := by simp
  step_names_distinct := List.nodup_nil

theorem NodesSound.of_append {front back : List Node} (h : NodesSound (front ++ back)) :
    NodesSound front where
  ids_distinct := by
    have ids := h.ids_distinct
    rw [List.map_append] at ids
    exact (List.nodup_append.1 ids).1
  ids_free n hn := h.ids_free n (List.mem_append_left _ hn)
  names_free n hn := h.names_free n (List.mem_append_left _ hn)
  step_names_distinct := by
    have names := h.step_names_distinct
    rw [List.filter_append, List.map_append] at names
    exact (List.nodup_append.1 names).1

/-- One more node keeps sound nodes sound exactly if it is fresh. -/
theorem nodesSound_append_singleton {earlier : List Node} {n : Node} (h : NodesSound earlier) :
    NodesSound (earlier ++ [n]) ↔ FreshAfter earlier n := by
  have steps : ((earlier ++ [n]).filter Node.isStep).map Node.name
      = (earlier.filter Node.isStep).map Node.name ++ if n.isStep then [n.name] else [] := by
    cases hstep : n.isStep <;> simp [hstep]
  constructor
  · intro whole
    have last : n ∈ earlier ++ [n] := by simp
    refine ⟨whole.ids_free n last, ?_, whole.names_free n last, ?_⟩
    · have ids := whole.ids_distinct
      rw [List.map_append, List.nodup_append] at ids
      exact fun hmem => ids.2.2 _ hmem _ (by simp) rfl
    · intro hstep
      have names := whole.step_names_distinct
      rw [steps, if_pos hstep, List.nodup_append] at names
      exact fun hmem => names.2.2 _ hmem _ (by simp) rfl
  · intro fresh
    refine ⟨?_, ?_, ?_, ?_⟩
    · rw [List.map_append, List.nodup_append]
      refine ⟨h.ids_distinct, by simp, ?_⟩
      rintro id hid last hlast rfl
      rw [List.map_cons, List.map_nil, List.mem_singleton] at hlast
      exact fresh.id_new (hlast ▸ hid)
    · intro m hm
      rcases List.mem_append.1 hm with hm | hm
      · exact h.ids_free m hm
      · rw [List.mem_singleton.1 hm]
        exact fresh.id_free
    · intro m hm
      rcases List.mem_append.1 hm with hm | hm
      · exact h.names_free m hm
      · rw [List.mem_singleton.1 hm]
        exact fresh.name_free
    · rw [steps]
      split
      · next hstep =>
        rw [List.nodup_append]
        refine ⟨h.step_names_distinct, by simp, ?_⟩
        rintro name hname last hlast rfl
        rw [List.mem_singleton] at hlast
        exact fresh.step_name_new hstep (hlast ▸ hname)
      · rw [List.append_nil]
        exact h.step_names_distinct

theorem nodeFault?_eq_none_iff (earlier : List Node) (n : Node) :
    nodeFault? earlier n = none ↔ FreshAfter earlier n := by
  unfold nodeFault?
  dsimp only
  by_cases hmarker : isMarker n.id = true
  · rw [if_pos hmarker]
    refine iff_of_false (by simp) fun fresh => ?_
    rcases (isMarker_iff n.id).1 hmarker with h | h
    · exact fresh.id_free.1 h
    · exact fresh.id_free.2 h
  rw [if_neg hmarker]
  rw [isMarker_iff, not_or] at hmarker
  by_cases hknown : (earlier.any (·.id == n.id)) = true
  · rw [if_pos hknown]
    refine iff_of_false (by simp) fun fresh => fresh.id_new ?_
    simpa using hknown
  rw [if_neg hknown]
  by_cases hruntime : runtimeNames.contains n.name = true
  · rw [if_pos hruntime]
    refine iff_of_false (by simp) fun fresh => ?_
    rcases (mem_runtimeNames_iff n.name).1 (List.contains_iff_mem.1 hruntime) with h | h
    · exact fresh.name_free.1 h
    · exact fresh.name_free.2 h
  rw [if_neg hruntime]
  rw [List.contains_iff_mem, mem_runtimeNames_iff, not_or] at hruntime
  -- only a step has to look at the names of the steps before it
  have id_new : n.id ∉ earlier.map Node.id := by simpa using hknown
  by_cases hstep : n.isStep = true
  · rw [if_pos hstep, Option.map_eq_none_iff, stepNamed?_eq_none_iff]
    exact ⟨fun hname => ⟨hmarker, id_new, hruntime, fun _ => hname⟩,
      fun fresh => fresh.step_name_new hstep⟩
  · rw [if_neg hstep]
    exact iff_of_true rfl ⟨hmarker, id_new, hruntime, fun h => absurd h hstep⟩

/-- No node is faulty exactly if all nodes together are sound. Induction on the nodes to come: the
ones already passed are sound. -/
theorem firstNodeFault?_eq_none_iff {earlier : List Node} (h : NodesSound earlier)
    (nodes : List Node) : firstNodeFault? earlier nodes = none ↔ NodesSound (earlier ++ nodes) := by
  induction nodes generalizing earlier with
  | nil =>
    rw [List.append_nil]
    exact iff_of_true rfl h
  | cons n rest ih =>
    have regroup : earlier ++ n :: rest = (earlier ++ [n]) ++ rest := by simp
    rw [regroup]
    unfold firstNodeFault?
    cases hfault : nodeFault? earlier n with
    | some fault =>
      -- sound nodes are sound up to `n`, which then has no fault
      refine iff_of_false (by simp) fun whole => ?_
      have fresh := (nodesSound_append_singleton h).1 whole.of_append
      rw [(nodeFault?_eq_none_iff earlier n).2 fresh] at hfault
      exact absurd hfault (by simp)
    | none =>
      have fresh := (nodeFault?_eq_none_iff earlier n).1 hfault
      exact ih ((nodesSound_append_singleton h).2 fresh)

/-! ## The ends of the edges -/

/-- When ids are distinct, the node that is found under an id is the one node that has it. -/
theorem find?_id_eq_some_iff {nodes : List Node} (h : (nodes.map Node.id).Nodup) (id : Text)
    (n : Node) : nodes.find? (·.id == id) = some n ↔ n ∈ nodes ∧ n.id = id := by
  induction nodes with
  | nil => simp
  | cons m rest ih =>
    rw [List.map_cons, List.nodup_cons] at h
    rw [List.find?_cons]
    by_cases hm : m.id = id
    · rw [show (m.id == id) = true from beq_iff_eq.2 hm]
      constructor
      · intro hfound
        injection hfound with hfound
        exact ⟨hfound ▸ List.mem_cons_self, hfound ▸ hm⟩
      · rintro ⟨hn, hid⟩
        rcases List.mem_cons.1 hn with rfl | hn
        · rfl
        · exact absurd (List.mem_map.2 ⟨n, hn, hid.trans hm.symm⟩) h.1
    · rw [show (m.id == id) = false from beq_eq_false_iff_ne.2 hm]
      simp only [ih h.2, List.mem_cons]
      constructor
      · exact fun hn => ⟨Or.inr hn.1, hn.2⟩
      · rintro ⟨rfl | hn, hid⟩
        · exact absurd hid hm
        · exact ⟨hn, hid⟩

/-- A verdict that lets a graph pass: sound, or dubious where the check is not strict. -/
def Verdict.Allowed (strict : Bool) : Verdict → Prop
  | .sound => True
  | .dubious _ => strict = false
  | .refused _ => False

/-- The judgement finds no fault exactly if every verdict lets the graph pass. -/
theorem judge_eq_none_iff (strict : Bool) (verdicts : List (Place × Verdict)) :
    (judge strict verdicts).2 = none ↔ ∀ v ∈ verdicts, v.2.Allowed strict := by
  induction verdicts with
  | nil => simp [judge]
  | cons v rest ih =>
    obtain ⟨place, verdict⟩ := v
    rw [List.forall_mem_cons]
    unfold judge
    cases verdict with
    | sound =>
      rw [and_iff_right (show Verdict.Allowed strict .sound from trivial)]
      exact ih
    | refused reason => exact iff_of_false (by simp) fun h => h.1
    | dubious reason =>
      cases strict with
      | true => exact iff_of_false (by simp) fun h => Bool.noConfusion h.1
      | false =>
        rw [and_iff_right (show Verdict.Allowed false (.dubious reason) from rfl)]
        exact ih

/-- An end of an edge that lets a graph pass. -/
def EndAllowed (strict : Bool) (nodes : List Node) (id : Text) : Prop :=
  id = "START".toList ∨ id = "END".toList ∨ ∃ n ∈ nodes, n.id = id ∧
    (n.type = "NODE".toList ∨ strict = false ∧ ∀ m ∈ nodes, m.type = "NODE".toList → m.name ≠ n.name)

theorem endVerdict_allowed_iff {nodes : List Node} (h : (nodes.map Node.id).Nodup) (strict : Bool)
    (id : Text) : (endVerdict nodes id).Allowed strict ↔ EndAllowed strict nodes id := by
  unfold endVerdict EndAllowed
  by_cases hmarker : isMarker id = true
  · rw [if_pos hmarker, ← or_assoc, ← isMarker_iff]
    exact iff_of_true trivial (Or.inl hmarker)
  rw [if_neg hmarker]
  rw [isMarker_iff, not_or] at hmarker
  simp only [hmarker.1, hmarker.2, false_or]
  cases hfound : nodes.find? (·.id == id) with
  | none =>
    refine iff_of_false (fun h => h) ?_
    rintro ⟨n, hn, hid, -⟩
    rw [(find?_id_eq_some_iff h id n).2 ⟨hn, hid⟩] at hfound
    exact absurd hfound (by simp)
  | some n =>
    have here := (find?_id_eq_some_iff h id n).1 hfound
    -- distinct ids make `n` the only node that the right-hand side can speak of
    have only : ∀ m ∈ nodes, m.id = id → m = n := by
      intro m hm hid
      have again := (find?_id_eq_some_iff h id m).2 ⟨hm, hid⟩
      rw [hfound] at again
      exact (Option.some.inj again).symm
    dsimp only
    by_cases hstep : n.isStep = true
    · rw [if_pos hstep]
      exact iff_of_true trivial ⟨n, here.1, here.2, Or.inl (n.isStep_iff.1 hstep)⟩
    rw [if_neg hstep]
    rw [n.isStep_iff] at hstep
    -- what is left to ask of a node that is no step: whether a step has its name
    have unborrowed : stepNamed? n.name nodes = none ↔
        ∀ m ∈ nodes, m.type = "NODE".toList → m.name ≠ n.name := by
      rw [stepNamed?_eq_none_iff]
      simp only [List.mem_map, List.mem_filter, Node.isStep_iff, not_exists, not_and, and_imp]
    cases howner : stepNamed? n.name nodes with
    | none =>
      constructor
      · exact fun hlax => ⟨n, here.1, here.2, Or.inr ⟨hlax, unborrowed.1 howner⟩⟩
      · rintro ⟨m, hm, hid, hother⟩
        rw [only m hm hid] at hother
        rcases hother with htype | hlax
        · exact absurd htype hstep
        · exact hlax.1
    | some owner =>
      refine iff_of_false (fun h => h) ?_
      rintro ⟨m, hm, hid, hother⟩
      rw [only m hm hid] at hother
      rcases hother with htype | hlax
      · exact hstep htype
      · rw [unborrowed.2 hlax.2] at howner
        exact absurd howner (by simp)

theorem Graph.map_snd_edgeEnds (g : Graph) : (edgeEnds g.edges).map Prod.snd = g.endIds := by
  unfold edgeEnds endIds
  rw [List.map_flatMap]
  conv_rhs => rw [← List.zipIdx_map_fst 0 g.edges, List.flatMap_map]
  rfl

/-- The verdicts on the ends of a graph let it pass exactly if they do so for each id that an edge
ends at. -/
theorem forall_endVerdicts_iff (g : Graph) (p : Verdict → Prop) :
    (∀ v ∈ endVerdicts g, p v.2) ↔ ∀ id ∈ g.endIds, p (endVerdict g.nodes id) := by
  unfold endVerdicts
  rw [← g.map_snd_edgeEnds]
  simp only [List.forall_mem_map]

/-! ## The check of a whole graph -/

/-- The structural check finds a fault exactly in the graphs that are not sound. -/
theorem checkStructure_eq_none_iff (strict : Bool) (g : Graph) :
    (checkStructure strict g).2 = none ↔ g.Sound strict := by
  have nodes := firstNodeFault?_eq_none_iff nodesSound_nil g.nodes
  rw [List.nil_append] at nodes
  unfold checkStructure
  cases hfault : firstNodeFault? [] g.nodes with
  | some fault =>
    refine iff_of_false (by simp) fun whole => ?_
    rw [nodes.2 whole.toNodesSound] at hfault
    exact absurd hfault (by simp)
  | none =>
    have sound := nodes.1 hfault
    show (judge strict (endVerdicts g)).2 = none ↔ _
    rw [judge_eq_none_iff, forall_endVerdicts_iff g (Verdict.Allowed strict)]
    simp only [endVerdict_allowed_iff sound.ids_distinct]
    constructor
    · intro allowed
      -- an end at a node that is no step has been allowed as such, and not as a marker
      have only : ∀ n ∈ g.nodes, n.id ∈ g.endIds → n.type ≠ "NODE".toList →
          strict = false ∧ ∀ m ∈ g.nodes, m.type = "NODE".toList → m.name ≠ n.name := by
        intro n hn hend htype
        rcases allowed n.id hend with hid | hid | ⟨m, hm, hid, hother⟩
        · exact absurd hid (sound.ids_free n hn).1
        · exact absurd hid (sound.ids_free n hn).2
        · have same : m = n := List.inj_on_of_nodup_map sound.ids_distinct hm hn hid
          rcases hother with hstep | hlax
          · exact absurd (same ▸ hstep) htype
          · exact same ▸ hlax
      refine ⟨sound, ?_, fun n hn hend htype => (only n hn hend htype).2, ?_⟩
      · intro id hid
        rcases allowed id hid with h | h | ⟨n, hn, hid, -⟩
        · exact Or.inl h
        · exact Or.inr (Or.inl h)
        · exact Or.inr (Or.inr ⟨n, hn, hid⟩)
      · intro hstrict n hn hend
        by_contra htype
        exact absurd (hstrict.symm.trans (only n hn hend htype).1) (by simp)
    · intro whole id hid
      rcases whole.ends_known id hid with h | h | ⟨n, hn, rfl⟩
      · exact Or.inl h
      · exact Or.inr (Or.inl h)
      · refine Or.inr (Or.inr ⟨n, hn, rfl, ?_⟩)
        by_cases htype : n.type = "NODE".toList
        · exact Or.inl htype
        · refine Or.inr ⟨?_, whole.ends_own_name n hn hid htype⟩
          cases strict with
          | false => rfl
          | true => exact absurd (whole.ends_steps rfl n hn hid) htype

end GraphScribe
