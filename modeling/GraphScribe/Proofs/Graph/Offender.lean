import GraphScribe.Proofs.Graph.Stages

/-!
# The first offender

A value that is rejected is rejected at the first check that it violates, in the order of
`Json.checks`, and what comes after a node that is refused by itself does not matter
(`canonical_rejects_first`).
-/

namespace GraphScribe

/-! ## The run on a value -/

/-- What goes through some checks of a value, and fails at the first one that it violates with a
rejection that tells of it. -/
abbrev FailsAt (value : Json) : List Check → Option Failure → Prop :=
  GoesThrough value.Violates fun check failure => ∃ r, failure = .rejected r ∧ r.check? = some check

section

variable {value : Json}

theorem Rejects.failsAt {checks : List Check} {fault : Option Rejection}
    (h : Rejects value checks fault) : FailsAt value checks (fault.map Failure.rejected) :=
  h.map fun _ r told => ⟨r, rfl, told⟩

theorem failsAt_seal {g : Graph} (describes : value.Describes g) :
    FailsAt value [.size] (faultOf g.toDraft.seal) := by
  have size : 200000 < g.octets ↔ value.Violates .size := by
    constructor
    · exact fun h => ⟨g, describes, h⟩
    · rintro ⟨g', describes', h⟩
      exact describes'.unique describes ▸ h
  rw [Graph.seal_toDraft, faultOf_ite]
  exact .ite size ⟨_, rfl, rfl⟩ goesThrough_nil

theorem failsAt_checked {g : Graph} (describes : value.Describes g) (strict : Bool) :
    FailsAt value (Check.amongItems strict value.nodeItems.length value.edgeItems.length)
      (faultOf (checked strict g).outcome) := by
  have outcome : faultOf (checked strict g).outcome
      = (checkStructure strict g).2.map Failure.rejected := by
    unfold checked
    cases checkStructure strict g with
    | mk warnings fault => cases fault <;> rfl
  obtain ⟨nodes, edges⟩ := describes.length_eq
  rw [outcome, ← nodes, ← edges]
  exact Rejects.failsAt (rejects_checkStructure describes strict)

/-- Making a value canonical goes through all checks of the value. -/
theorem failsAt_canonical (plain : value.Plain) (strict : Bool) :
    FailsAt value (value.checks strict) (faultOf (canonical strict value).outcome) := by
  have cleaned : FailsAt value
      (Check.ofWhole ++ Check.ofItems value.nodeItems.length value.edgeItems.length)
      (faultOf ((cleanGraph value).mapError Failure.rejected)) := by
    rw [faultOf_mapError]
    exact Rejects.failsAt (rejects_cleanGraph plain)
  unfold Json.checks canonical
  rw [Run.outcome_bind, List.append_assoc (Check.ofWhole ++ _)]
  refine cleaned.bind fun d hd => ?_
  -- without lone halves, what was cleaned is the draft of the graph that the value describes
  have clean := mapError_eq_ok_iff.1 hd
  obtain ⟨g, rfl⟩ := (exists_toDraft_iff_of_cleanGraph clean).2 plain.not_holdsHalf
  have describes := (cleanGraph_eq_ok_iff value g).1 clean
  rw [Run.outcome_bind]
  refine (failsAt_seal describes).bind fun g' hg' => ?_
  obtain ⟨same, -⟩ := (g.toDraft.seal_eq_ok_iff g').1 hg'
  rw [same] at clean
  exact failsAt_checked ((cleanGraph_eq_ok_iff value g').1 clean) strict

end

/-! ## Nodes by themselves -/

theorem outcome_canonical_of_refused {strict : Bool} {value : Json} {r : Rejection}
    (h : cleanGraph value = .error r) : (canonical strict value).outcome = .error (.rejected r) := by
  unfold canonical
  rw [h]
  rfl

/-- The node at an index is refused by itself, and no node before it is. -/
def RefusedAt (items : List Json) (i : Nat) (r : Rejection) : Prop :=
  ∃ item, items[i]? = some item ∧ cleanNode i item = .error r ∧
    ∀ j < i, ∀ item, items[j]? = some item → ∃ n, cleanNode j item = .ok n

theorem RefusedAt.of_take {items items' : List Json} {i : Nat} {r : Rejection}
    (h : RefusedAt items i r) (same : items'.take (i + 1) = items.take (i + 1)) :
    RefusedAt items' i r := by
  have front : ∀ j < i + 1, items'[j]? = items[j]? := by
    intro j hj
    rw [← List.getElem?_take_of_lt hj, same, List.getElem?_take_of_lt hj]
  obtain ⟨item, here, refused, before⟩ := h
  refine ⟨item, (front i (Nat.lt_succ_self i)).trans here, refused, fun j hj item hitem => ?_⟩
  rw [front j (Nat.lt_succ_of_lt hj)] at hitem
  exact before j hj item hitem

section

variable {value : Json} {nodes edges : List Json} (lists : value.Lists nodes edges)
  (fewNodes : nodes.length ≤ 200) (fewEdges : edges.length ≤ 600) {r : Rejection}

include lists fewNodes fewEdges

theorem cleanGraph_of_refused_nodes
    (h : (nodes.zipIdx.mapM fun (item, i) => cleanNode i item) = .error r) :
    cleanGraph value = .error r := by
  obtain ⟨members, rfl, hnodes, hedges⟩ := lists
  unfold cleanGraph
  rw [(expectObject_eq_ok_iff _ _ _).2 rfl, ok_bind, (expectArray_eq_ok_iff _ _ _).2 hnodes, ok_bind,
    (expectArray_eq_ok_iff _ _ _).2 hedges, ok_bind,
    if_neg (show ¬ nodeLimit < nodes.length from Nat.not_lt.2 fewNodes),
    if_neg (show ¬ edgeLimit < edges.length from Nat.not_lt.2 fewEdges), h]
  rfl

/-- A node that is refused by itself decides how the run ends. -/
theorem outcome_canonical_of_refusedAt {i : Nat} (h : RefusedAt nodes i r) (strict : Bool) :
    (canonical strict value).outcome = .error (.rejected r) := by
  refine outcome_canonical_of_refused (cleanGraph_of_refused_nodes lists fewNodes fewEdges ?_)
  obtain ⟨item, here, refused, before⟩ := h
  exact mapM_zipIdx_eq_error_iff.2 ⟨i, item, here, refused, before⟩

end

theorem Check.eq_of_mem_ofNode {check : Check} {i j : Nat} (hi : check ∈ ofNode i)
    (hj : check ∈ ofNode j) : i = j := by
  simp only [ofNode, List.mem_cons, List.not_mem_nil, or_false] at hi hj
  rcases hi with rfl | rfl | rfl | rfl | rfl <;> simpa using hj

theorem Check.not_mem_ofWhole {check : Check} {i : Nat} (h : check ∈ ofNode i) :
    check ∉ ofWhole := by
  simp only [ofNode, List.mem_cons, List.not_mem_nil, or_false] at h
  rcases h with rfl | rfl | rfl | rfl | rfl <;> simp [ofWhole]

section

variable {value : Json}

/-- A value that passes the checks of the whole lists its items, and not too many. -/
theorem lists_of_passes (h : ∀ check ∈ Check.ofWhole, ¬ value.Violates check) :
    value.Lists value.nodeItems value.edgeItems ∧
      value.nodeItems.length ≤ 200 ∧ value.edgeItems.length ≤ 600 := by
  simp only [Check.ofWhole, List.forall_mem_cons, Json.Violates, not_forall, not_not, not_exists,
    not_and, Nat.not_lt] at h
  obtain ⟨⟨members, rfl⟩, nodes, edges, fewNodes, fewEdges, -⟩ := h
  obtain ⟨nodes, hnodes⟩ := nodes members rfl
  obtain ⟨edges, hedges⟩ := edges members rfl
  obtain rfl : (Json.object members).nodeItems = nodes := hnodes.itemsOf_eq
  obtain rfl : (Json.object members).edgeItems = edges := hedges.itemsOf_eq
  exact ⟨⟨members, rfl, hnodes, hedges⟩, fewNodes, fewEdges⟩

theorem exists_item_of_violates {check : Check} {i : Nat} (hcheck : check ∈ Check.ofNode i)
    (violates : value.Violates check) : i < value.nodeItems.length := by
  simp only [Check.ofNode, List.mem_cons, List.not_mem_nil, or_false] at hcheck
  rcases hcheck with rfl | rfl | rfl | rfl | rfl <;>
    obtain ⟨_, here, -⟩ := violates <;> exact (List.getElem?_eq_some_iff.1 here).1

/-- A rejection that tells of a check of a node by itself comes from that node. -/
theorem refusedAt_of_canonical (plain : value.Plain) {strict : Bool} {r : Rejection}
    (h : (canonical strict value).outcome = .error (.rejected r)) {check : Check} {i : Nat}
    (hcheck : check ∈ Check.ofNode i) (told : r.check? = some check) :
    RefusedAt value.nodeItems i r := by
  obtain ⟨found, first, r', heq, told'⟩ :=
    (failsAt_canonical plain strict).found _ (faultOf_eq_some_iff.2 h)
  cases heq
  cases told.symm.trans told'
  -- so the checks of the whole are passed
  have whole : ∀ check ∈ Check.ofWhole, ¬ value.Violates check := by
    have front := first
    simp only [Json.checks, List.append_assoc] at front
    exact front.of_append.resolve_left (Check.not_mem_ofWhole hcheck)
  obtain ⟨lists, fewNodes, fewEdges⟩ := lists_of_passes whole
  -- and some node is refused by itself
  have inNodes : check ∈ (List.range value.nodeItems.length).flatMap Check.ofNode :=
    List.mem_flatMap.2 ⟨i, List.mem_range.2 (exists_item_of_violates hcheck first.holds), hcheck⟩
  obtain ⟨r', hr'⟩ := (rejects_cleanNodes plain).exists_iff.2 ⟨check, inNodes, first.holds⟩
  have refused := faultOf_eq_some_iff.1 hr'
  have ends : (canonical strict value).outcome = .error (.rejected r') :=
    outcome_canonical_of_refused (cleanGraph_of_refused_nodes lists fewNodes fewEdges refused)
  cases h.symm.trans ends
  obtain ⟨j, item, here, hitem, before⟩ := mapM_zipIdx_eq_error_iff.1 refused
  have plainItem := plain.nodeItems (List.mem_of_getElem? here)
  obtain ⟨found, first', told'⟩ :=
    (rejects_cleanNode here plainItem).found r (faultOf_eq_some_iff.2 hitem)
  cases told.symm.trans told'
  obtain rfl := Check.eq_of_mem_ofNode hcheck first'.mem
  exact ⟨item, here, hitem, before⟩

end

/-- Rejections point at the first offender. A value without lone halves is rejected exactly if it
violates one of its checks, and the rejection is at the place of the first one that it violates and
tells of it. If that is a check of a node by itself, the rejection stays as it is when the nodes after
that one and all edges are replaced by other values, as long as they are not too many. -/
theorem canonical_rejects_first {value : Json} (plain : value.Plain) (strict : Bool) :
    ((∃ r, (canonical strict value).outcome = .error (.rejected r)) ↔
      ∃ check ∈ value.checks strict, value.Violates check) ∧
    ∀ r, (canonical strict value).outcome = .error (.rejected r) →
      (∃ check, IsFirst value.Violates (value.checks strict) check ∧ r.check? = some check ∧
        r.place = check.place) ∧
      ∀ i check, check ∈ Check.ofNode i → r.check? = some check →
        ∀ (other : Json) (nodes edges : List Json), other.Lists nodes edges → nodes.length ≤ 200 →
          edges.length ≤ 600 → nodes.take (i + 1) = value.nodeItems.take (i + 1) →
            ∀ strict', (canonical strict' other).outcome = .error (.rejected r) := by
  have checks := failsAt_canonical plain strict
  refine ⟨?_, fun r h => ⟨?_, fun i check hcheck told other nodes edges lists few few' same => ?_⟩⟩
  · rw [← checks.exists_iff]
    constructor
    · exact fun ⟨r, h⟩ => ⟨_, faultOf_eq_some_iff.2 h⟩
    · rintro ⟨failure, h⟩
      obtain ⟨-, -, r, rfl, -⟩ := checks.found failure h
      exact ⟨r, faultOf_eq_some_iff.1 h⟩
  · obtain ⟨check, first, r', heq, told⟩ := checks.found _ (faultOf_eq_some_iff.2 h)
    cases heq
    exact ⟨check, first, told, Rejection.place_eq_of_check? told⟩
  · have refused := (refusedAt_of_canonical plain h hcheck told).of_take same
    exact outcome_canonical_of_refusedAt lists few few' refused

/-- A graph with an id that is none, an id that comes twice and an edge to nowhere. -/
def disorder : Graph where
  nodes := [⟨"a".toList, "NODE".toList, none, none⟩, ⟨"b c".toList, "NODE".toList, none, none⟩,
    ⟨"a".toList, "NODE".toList, none, none⟩]
  edges := [⟨"a".toList, "d".toList⟩]

/-- The same up to the id that is none, and something else from there on. -/
def disorderCut : Json :=
  .object [Json.field "nodes" (.array [
    .object [Json.field "id" (.text "a".toList), Json.field "type" (.text "NODE".toList)],
    .object [Json.field "id" (.text "b c".toList), Json.field "type" (.text "NODE".toList)],
    .string [.lone ⟨61, by decide⟩], .null])]

theorem canonical_rejects_first_disorder :
    disorder.toJson.Plain ∧
    (∃ check, IsFirst disorder.toJson.Violates (disorder.toJson.checks false) check ∧
      Rejection.check? ⟨.nodeField 1 .id, .idCharacters⟩ = some check ∧
      .nodeField 1 .id = check.place) ∧
    (canonical true disorderCut).outcome = .error (.rejected ⟨.nodeField 1 .id, .idCharacters⟩) := by
  have plain := disorder.plain_toJson
  have rejected : (canonical false disorder.toJson).outcome
      = .error (.rejected ⟨.nodeField 1 .id, .idCharacters⟩) := rfl
  obtain ⟨first, stays⟩ := (canonical_rejects_first plain false).2 _ rejected
  have lists : disorderCut.Lists disorderCut.nodeItems [] := ⟨_, rfl, Or.inr rfl, Or.inl ⟨rfl, rfl⟩⟩
  exact ⟨plain, first, stays 1 (.nodePart 1 .id) (by decide) rfl disorderCut _ _ lists (by decide)
    (by decide) rfl true⟩

end GraphScribe
