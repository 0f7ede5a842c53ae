import GraphScribe.Proofs.Checklist
import GraphScribe.Proofs.Graph.Checks
import GraphScribe.Proofs.Graph.Refusal

/-!
# The checks, stage by stage

Each stage of making a graph canonical goes through its checks of the value and rejects it at the first
one that the value violates (`Rejects`).

## The architecture

* **Parts by themselves**: what is cleaned successfully stands for something, and the reasons against
  a part are those of parts.
* **Cleaning** (`rejects_cleanGraph`): the checks of the whole, then those of each item by itself. The
  index of an item is the same in the list of checks and in the walk over the items.
* **Items among each other** (`rejects_checkStructure`): for a value that describes a graph, what it
  lists at an index is what the graph has there (`Json.Describes.nodeAt_iff`), so that the walks over
  the graph are walks over the value. Both walks are a first fault among items (`List.findSome?`).
-/

namespace GraphScribe

/-- What goes through some checks of a value, and rejects it at the first one that it violates. -/
abbrev Rejects (value : Json) : List Check → Option Rejection → Prop :=
  GoesThrough value.Violates fun check r => r.check? = some check

/-! ## Parts by themselves -/

/-- Reasons for which a part is refused by itself. -/
abbrev OfPart (reason : Reason) : Prop := reason.isOfPart = true

theorem ofPart_error {β : Type} {reason : Reason} (h : reason.isOfPart = true) :
    FailsAs OfPart (.error reason : Except Reason β) :=
  failsAs_error h

theorem ofPart_expectString (value : Json) : FailsAs OfPart (expectString value) := by
  cases value with
  | string t => exact failsAs_ok t
  | _ => exact ofPart_error rfl

theorem ofPart_cleanId (value : Json) : FailsAs OfPart (cleanId value) := by
  unfold cleanId
  split
  · exact ofPart_error rfl
  · refine (ofPart_expectString value).bind fun t => ?_
    exact (ofPart_error rfl).ite <| (ofPart_error rfl).ite <| (ofPart_error rfl).ite <|
      (ofPart_error rfl).ite <| failsAs_ok _

theorem ofPart_cleanType (value : Json) : FailsAs OfPart (cleanType value) := by
  unfold cleanType
  split
  · exact failsAs_ok _
  · refine (ofPart_expectString value).bind fun t => ?_
    exact (ofPart_error rfl).ite <| (failsAs_ok _).ite <| failsAs_ok _

theorem ofPart_cleanLabel (value : Json) : FailsAs OfPart (cleanLabel value) := by
  unfold cleanLabel
  split
  · exact failsAs_ok _
  · refine (ofPart_expectString value).bind fun t => ?_
    exact (failsAs_ok _).ite <| (ofPart_error rfl).ite <| failsAs_ok _

theorem ofPart_cleanCode (value : Json) : FailsAs OfPart (cleanCode value) := by
  unfold cleanCode
  split
  · exact failsAs_ok _
  · refine (ofPart_expectString value).bind fun t => ?_
    exact (failsAs_ok _).ite <| (ofPart_error rfl).ite <| failsAs_ok _

theorem Rejection.check?_nodePart {reason : Reason} (h : OfPart reason) (i : Nat) (field : NodeField) :
    (⟨.nodeField i field, reason⟩ : Rejection).check? = some (.nodePart i field) := by
  cases reason <;> cases field <;> first | rfl | cases h

theorem Rejection.check?_edgePart {reason : Reason} (h : OfPart reason) (i : Nat) (side : EdgeEnd) :
    (⟨.edgeEnd i side, reason⟩ : Rejection).check? = some (.edgePart i side) := by
  cases reason <;> first | rfl | cases h

/-- A cleaning function whose clean forms are views of what the value stands for succeeds exactly if
the value stands for something. -/
theorem exists_clean_iff {β γ : Type} {clean : Except Reason β} {view : γ → β} {stands : γ → Prop}
    (views : ∀ b, clean = .ok b → ∃ c, b = view c) (rule : ∀ c, clean = .ok (view c) ↔ stands c) :
    (∃ b, clean = .ok b) ↔ ∃ c, stands c := by
  constructor
  · rintro ⟨b, hb⟩
    obtain ⟨c, rfl⟩ := views b hb
    exact ⟨c, (rule c).1 hb⟩
  · rintro ⟨c, hc⟩
    exact ⟨view c, (rule c).2 hc⟩

theorem exists_cleanId_iff (value : Json) : (∃ id, cleanId value = .ok id) ↔ ∃ id, value.IdOf id := by
  simp only [cleanId_eq_ok_iff]

section

variable {value : Json} (whole : value.Whole)

include whole

theorem exists_cleanType_iff : (∃ t, cleanType value = .ok t) ↔ ∃ t, value.TypeOf t :=
  exists_clean_iff (fun _ h => (exists_rawOf_iff_of_cleanType h).2 whole) (cleanType_eq_ok_iff value)

theorem exists_cleanLabel_iff : (∃ t, cleanLabel value = .ok t) ↔ ∃ t, value.LabelOf t :=
  exists_clean_iff (fun _ h => (exists_rawOf_iff_of_cleanLabel h).2 whole)
    (cleanLabel_eq_ok_iff value)

theorem exists_cleanCode_iff : (∃ t, cleanCode value = .ok t) ↔ ∃ t, value.CodeOf t :=
  exists_clean_iff (fun _ h => (exists_rawOf_iff_of_cleanCode h).2 whole) (cleanCode_eq_ok_iff value)

end

/-! ## Cleaning -/

section

variable {value : Json} {check : Check} {place : Place}

theorem rejects_object {item : Json}
    (told : (⟨place, .notObject⟩ : Rejection).check? = some check)
    (violates : value.Violates check ↔ ∀ members, item ≠ .object members) :
    Rejects value [check] (faultOf (expectObject place item)) := by
  refine goesThrough_of_ok_iff ?_ (failsAs_expectObject told item)
  simp only [violates, expectObject_eq_ok_iff, ne_eq, not_forall, not_not]

theorem rejects_array {list : Json}
    (told : (⟨place, .notArray⟩ : Rejection).check? = some check)
    (violates : value.Violates check ↔ ∀ items, ¬ list.ItemsOf items) :
    Rejects value [check] (faultOf (expectArray place list)) := by
  refine goesThrough_of_ok_iff ?_ (failsAs_expectArray told list)
  simp only [violates, expectArray_eq_ok_iff, not_forall, not_not]

theorem rejects_part {β : Type} {part : Except Reason β}
    (told : ∀ reason, OfPart reason → (⟨place, reason⟩ : Rejection).check? = some check)
    (violates : value.Violates check ↔ ¬ ∃ b, part = .ok b) (refused : FailsAs OfPart part) :
    Rejects value [check] (faultOf (at' place part)) := by
  unfold at'
  refine goesThrough_of_ok_iff ?_ ?_
  · simp only [violates, mapError_eq_ok_iff, not_not]
  · cases part with
    | error reason => exact failsAs_error (told reason (refused reason rfl))
    | ok b => exact failsAs_ok b

theorem rejects_cleanNode {i : Nat} {item : Json} (here : value.nodeItems[i]? = some item)
    (plain : item.Plain) : Rejects value (Check.ofNode i) (faultOf (cleanNode i item)) := by
  have shape : value.Violates (.nodeShape i) ↔ ∀ members, item ≠ .object members := by
    simp only [Json.Violates, here, Option.some.injEq, exists_eq_left']
  unfold cleanNode Check.ofNode
  refine (rejects_object rfl shape).bind fun members hmembers => ?_
  rw [expectObject_eq_ok_iff] at hmembers
  subst hmembers
  have whole : ∀ key, (Json.member key members).Whole := fun key => (plain.member key).whole
  have part : ∀ {β : Type} (field : NodeField) {part : Except Reason β},
      ((∃ b, part = .ok b) ↔ Json.HasPart members field) → FailsAs OfPart part →
        Rejects value [.nodePart i field] (faultOf (at' (.nodeField i field) part)) := by
    intro β field part has refused
    refine rejects_part (fun _ h => Rejection.check?_nodePart h i field) ?_ refused
    simp only [Json.Violates, here, Option.some.injEq, Json.object.injEq, exists_eq_left', has]
  refine (part .id (exists_cleanId_iff _) (ofPart_cleanId _)).bind fun id _ => ?_
  refine (part .type (exists_cleanType_iff (whole _)) (ofPart_cleanType _)).bind fun type _ => ?_
  refine (part .label (exists_cleanLabel_iff (whole _)) (ofPart_cleanLabel _)).bind fun label _ => ?_
  refine (part .code (exists_cleanCode_iff (whole _)) (ofPart_cleanCode _)).bind fun code _ => ?_
  exact goesThrough_ok _

theorem rejects_cleanEdge {i : Nat} {item : Json} (here : value.edgeItems[i]? = some item) :
    Rejects value (Check.ofEdge i) (faultOf (cleanEdge i item)) := by
  have shape : value.Violates (.edgeShape i) ↔ ∀ members, item ≠ .object members := by
    simp only [Json.Violates, here, Option.some.injEq, exists_eq_left']
  unfold cleanEdge Check.ofEdge
  refine (rejects_object rfl shape).bind fun members hmembers => ?_
  rw [expectObject_eq_ok_iff] at hmembers
  subst hmembers
  have part : ∀ side : EdgeEnd, Rejects value [.edgePart i side]
      (faultOf (at' (.edgeEnd i side) (cleanId (Json.member side.name members)))) := by
    intro side
    refine rejects_part (fun _ h => Rejection.check?_edgePart h i side) ?_ (ofPart_cleanId _)
    simp only [Json.Violates, here, Option.some.injEq, Json.object.injEq, exists_eq_left',
      cleanId_eq_ok_iff, not_exists]
  refine (part .source).bind fun source _ => ?_
  exact (part .target).bind fun target _ => goesThrough_ok _

theorem Json.Plain.nodeItems (h : value.Plain) {item : Json} (hitem : item ∈ value.nodeItems) :
    item.Plain := by
  cases value with
  | object members =>
    have array := h.member "nodes"
    change item ∈ itemsOf (Json.member "nodes" members) at hitem
    cases hmember : Json.member "nodes" members with
    | array items =>
      rw [hmember] at hitem array
      exact array.item hitem
    | _ =>
      rw [hmember] at hitem
      exact absurd hitem List.not_mem_nil
  | _ => exact absurd hitem List.not_mem_nil

theorem rejects_cleanNodes (plain : value.Plain) :
    Rejects value ((List.range value.nodeItems.length).flatMap Check.ofNode)
      (faultOf (value.nodeItems.zipIdx.mapM fun (item, i) => cleanNode i item)) := by
  rw [faultOf_mapM]
  exact .findSome_zipIdx fun item i here =>
    rejects_cleanNode here (plain.nodeItems (List.mem_of_getElem? here))

theorem rejects_cleanEdges (value : Json) :
    Rejects value ((List.range value.edgeItems.length).flatMap Check.ofEdge)
      (faultOf (value.edgeItems.zipIdx.mapM fun (item, i) => cleanEdge i item)) := by
  rw [faultOf_mapM]
  exact .findSome_zipIdx fun item i here => rejects_cleanEdge here

/-- Cleaning goes through the checks of the whole and those of each item by itself. -/
theorem rejects_cleanGraph (plain : value.Plain) :
    Rejects value
      (Check.ofWhole ++ Check.ofItems value.nodeItems.length value.edgeItems.length)
      (faultOf (cleanGraph value)) := by
  unfold cleanGraph Check.ofWhole
  refine (rejects_object rfl Iff.rfl).bind fun members hmembers => ?_
  rw [expectObject_eq_ok_iff] at hmembers
  subst hmembers
  have nodesShape : (Json.object members).Violates .nodesShape ↔
      ∀ items, ¬ (Json.member "nodes" members).ItemsOf items := by
    simp only [Json.Violates, Json.object.injEq, exists_eq_left']
  have edgesShape : (Json.object members).Violates .edgesShape ↔
      ∀ items, ¬ (Json.member "edges" members).ItemsOf items := by
    simp only [Json.Violates, Json.object.injEq, exists_eq_left']
  refine (rejects_array rfl nodesShape).bind fun nodes hnodes => ?_
  refine (rejects_array rfl edgesShape).bind fun edges hedges => ?_
  rw [expectArray_eq_ok_iff] at hnodes hedges
  -- the items that were taken out are the items of the value
  obtain rfl : (Json.object members).nodeItems = nodes := hnodes.itemsOf_eq
  obtain rfl : (Json.object members).edgeItems = edges := hedges.itemsOf_eq
  rw [faultOf_ite, faultOf_ite]
  refine .ite Iff.rfl rfl (.ite Iff.rfl rfl ?_)
  refine (rejects_cleanNodes plain).bind fun draftNodes _ => ?_
  rw [← List.append_nil (List.flatMap _ _)]
  exact (rejects_cleanEdges _).bind fun draftEdges _ => goesThrough_ok _

end

/-! ## Items among each other -/

theorem mem_take_iff {α : Type} {xs : List α} {i : Nat} {x : α} :
    x ∈ xs.take i ↔ ∃ j, j < i ∧ xs[j]? = some x := by
  rw [List.mem_iff_getElem?]
  simp only [List.getElem?_take, Option.ite_none_right_eq_some]

/-- The walk over the nodes, node by node with the nodes before it. Induction on the nodes to come. -/
theorem firstNodeFault?_eq_findSome?_of_append (earlier rest : List Node) :
    firstNodeFault? earlier rest = (rest.zipIdx earlier.length).findSome? fun (n, i) =>
      nodeFault? ((earlier ++ rest).take i) n := by
  induction rest generalizing earlier with
  | nil => rfl
  | cons n rest ih =>
    have regroup : earlier ++ n :: rest = (earlier ++ [n]) ++ rest := by simp
    have later := ih (earlier ++ [n])
    rw [List.length_append, List.length_singleton, ← regroup] at later
    rw [List.zipIdx_cons, findSome?_cons_eq_or, ← later, firstNodeFault?]
    dsimp only
    rw [List.take_left]
    cases nodeFault? earlier n <;> rfl

theorem firstNodeFault?_eq_findSome? (nodes : List Node) :
    firstNodeFault? [] nodes = nodes.zipIdx.findSome? fun (n, i) => nodeFault? (nodes.take i) n :=
  firstNodeFault?_eq_findSome?_of_append [] nodes

/-- The fault that a verdict is at a place. -/
def Verdict.fault? (strict : Bool) (place : Place) : Verdict → Option Rejection
  | .sound => none
  | .refused reason => some ⟨place, reason⟩
  | .dubious reason => if strict then some ⟨place, reason⟩ else none

theorem judge_eq_findSome? (strict : Bool) (verdicts : List (Place × Verdict)) :
    (judge strict verdicts).2 = verdicts.findSome? fun (place, v) => v.fault? strict place := by
  induction verdicts with
  | nil => rfl
  | cons first rest ih =>
    obtain ⟨place, verdict⟩ := first
    rw [findSome?_cons_eq_or, ← ih]
    cases verdict with
    | sound => rfl
    | refused reason => rfl
    | dubious reason => cases strict <;> rfl

/-- What stands at an index of a list stands for what is at the index of a list related to it. -/
theorem getElem?_iff_of_forall₂ {α β : Type} {R : α → β → Prop} (unique : Relator.RightUnique R)
    {xs : List α} {ys : List β} (h : List.Forall₂ R xs ys) (i : Nat) (y : β) :
    (∃ x, xs[i]? = some x ∧ R x y) ↔ ys[i]? = some y := by
  induction h generalizing i with
  | nil => simp
  | @cons x y' xs ys hxy _ ih =>
    cases i with
    | zero =>
      simp only [List.getElem?_cons_zero, Option.some.injEq, exists_eq_left']
      exact ⟨fun hy => unique hxy hy, fun hy => hy ▸ hxy⟩
    | succ i => exact ih i

section

variable {value : Json} {g : Graph} (describes : value.Describes g)

include describes

theorem Json.Describes.nodeAt_iff (i : Nat) (n : Node) : value.NodeAt i n ↔ g.nodes[i]? = some n := by
  obtain ⟨nodes, edges, lists, -, -, hnodes, -⟩ := (describes_iff value g).1 describes
  unfold NodeAt
  rw [lists.items_eq.1]
  exact getElem?_iff_of_forall₂ rightUnique_nodeOf hnodes i n

theorem Json.Describes.edgeAt_iff (i : Nat) (e : Edge) : value.EdgeAt i e ↔ g.edges[i]? = some e := by
  obtain ⟨nodes, edges, lists, -, -, -, hedges⟩ := (describes_iff value g).1 describes
  unfold EdgeAt
  rw [lists.items_eq.2]
  exact getElem?_iff_of_forall₂ rightUnique_edgeOf hedges i e

theorem Json.Describes.endAt_iff {i : Nat} {e : Edge} (here : g.edges[i]? = some e) (side : EdgeEnd)
    (id : Text) : value.EndAt i side id ↔ isMarker id = false ∧ e.endAt side = id := by
  unfold EndAt
  rw [← not_or, ← isMarker_iff, Bool.not_eq_true]
  simp only [describes.edgeAt_iff, here, Option.some.injEq, exists_eq_left']
  exact and_comm

theorem Json.Describes.exists_earlier_iff (i : Nat) (p : Node → Prop) :
    (∃ j m, j < i ∧ value.NodeAt j m ∧ p m) ↔ ∃ m ∈ g.nodes.take i, p m := by
  simp only [describes.nodeAt_iff, mem_take_iff]
  constructor
  · rintro ⟨j, m, hj, hm, hp⟩
    exact ⟨m, ⟨j, hj, hm⟩, hp⟩
  · rintro ⟨m, ⟨j, hj, hm⟩, hp⟩
    exact ⟨j, m, hj, hm, hp⟩

theorem rejects_stepNamed? {i : Nat} {n : Node} (here : g.nodes[i]? = some n) :
    Rejects value [.takenName i]
      (if n.isStep then (stepNamed? n.name (g.nodes.take i)).map fun owner =>
        ⟨.node i, .nameTaken n.name owner⟩ else none) := by
  have violates : value.Violates (.takenName i) ↔
      n.isStep = true ∧ stepNamed? n.name (g.nodes.take i) ≠ none := by
    rw [Ne, stepNamed?_eq_none_iff, not_not, n.isStep_iff]
    simp only [Json.Violates, describes.nodeAt_iff i, here, Option.some.injEq, exists_eq_left',
      describes.exists_earlier_iff, List.mem_map, List.mem_filter, Node.isStep_iff, and_assoc]
  cases hstep : n.isStep with
  | false =>
    rw [if_neg Bool.false_ne_true]
    exact goesThrough_nil.skip fun h => Bool.noConfusion (hstep.symm.trans (violates.1 h).1)
  | true =>
    rw [if_pos rfl]
    cases hnamed : stepNamed? n.name (g.nodes.take i) with
    | none => exact goesThrough_nil.skip fun h => (violates.1 h).2 hnamed
    | some owner =>
      have taken : value.Violates (.takenName i) :=
        violates.2 ⟨hstep, fun hnone => by cases hnamed.symm.trans hnone⟩
      have told : (⟨.node i, .nameTaken n.name owner⟩ : Rejection).check? = some (.takenName i) := rfl
      exact goesThrough_head taken told []

/-- A node is looked at among the nodes before it. -/
theorem rejects_nodeFault? {i : Nat} {n : Node} (here : g.nodes[i]? = some n) :
    Rejects value (Check.amongNodes i) (nodeFault? (g.nodes.take i) n) := by
  have index : (g.nodes.take i).length = i :=
    List.length_take_of_le (Nat.le_of_lt (List.getElem?_eq_some_iff.1 here).1)
  have reserved : ∀ origin, value.Violates (.reservedName i origin) ↔
      n.nameField = origin ∧ runtimeNames.contains n.name = true := by
    intro origin
    rw [List.contains_iff_mem, mem_runtimeNames_iff]
    simp only [Json.Violates, describes.nodeAt_iff, here, Option.some.injEq, exists_eq_left']
  unfold nodeFault? Check.amongNodes
  dsimp only
  rw [index]
  refine .ite ?_ rfl (.ite ?_ rfl ?_)
  · simp only [Json.Violates, describes.nodeAt_iff, here, Option.some.injEq, exists_eq_left',
      isMarker_iff]
  · rw [List.any_eq_true]
    simp only [Json.Violates, describes.nodeAt_iff i, here, Option.some.injEq, exists_eq_left',
      beq_iff_eq, describes.exists_earlier_iff]
  have taken := rejects_stepNamed? describes here
  -- the name is looked at in the one field that it came from
  change Rejects value _ (if runtimeNames.contains n.name then
    some ⟨.nodeField i n.nameField, .runtimeName n.name⟩ else _)
  cases hlabel : n.label with
  | some label =>
    have field : n.nameField = .label := by rw [Node.nameField, hlabel]; rfl
    rw [field] at reserved ⊢
    have other : ¬ value.Violates (.reservedName i .id) := fun h => by cases ((reserved _).1 h).1
    exact .ite (by rw [reserved, eq_self, true_and]) rfl (taken.skip other)
  | none =>
    have field : n.nameField = .id := by rw [Node.nameField, hlabel]; rfl
    rw [field] at reserved ⊢
    have other : ¬ value.Violates (.reservedName i .label) := fun h => by cases ((reserved _).1 h).1
    exact .skip other (.ite (by rw [reserved, eq_self, true_and]) rfl taken)

theorem rejects_firstNodeFault? : Rejects value ((List.range g.nodes.length).flatMap Check.amongNodes)
    (firstNodeFault? [] g.nodes) := by
  rw [firstNodeFault?_eq_findSome?]
  exact .findSome_zipIdx fun n i here => rejects_nodeFault? describes here

theorem Json.Describes.exists_nodeAt_iff (n : Node) : (∃ j, value.NodeAt j n) ↔ n ∈ g.nodes := by
  simp only [describes.nodeAt_iff, List.mem_iff_getElem?]

/-- The verdict on an end at a node. -/
theorem rejects_endAtNode (strict : Bool) {i : Nat} {side : EdgeEnd} {n : Node} (hn : n ∈ g.nodes)
    (hend : value.EndAt i side n.id)
    (only : ∀ {j m}, value.NodeAt j m → value.EndAt i side m.id → m = n) :
    Rejects value ([.borrowedEnd i side] ++ if strict then [.unwrittenEnd i side] else [])
      (Verdict.fault? strict (.edgeEnd i side)
        (if n.isStep then .sound else match stepNamed? n.name g.nodes with
          | some owner => .refused (.borrowedName n.id owner)
          | none => .dubious (.notWritten n.id n.type))) := by
  obtain ⟨j, nodeAt⟩ := (describes.exists_nodeAt_iff n).2 hn
  have borrowed : value.Violates (.borrowedEnd i side) ↔
      n.isStep = false ∧ stepNamed? n.name g.nodes ≠ none := by
    rw [Ne, stepNamed?_eq_none_iff, not_not, ← Bool.not_eq_true, n.isStep_iff]
    simp only [List.mem_map, List.mem_filter, Node.isStep_iff]
    constructor
    · rintro ⟨_, m, hm, hend', htype, k, owner, howner, hstep, hname⟩
      obtain rfl := only hm hend'
      exact ⟨htype, owner, ⟨(describes.exists_nodeAt_iff owner).1 ⟨k, howner⟩, hstep⟩, hname⟩
    · rintro ⟨htype, owner, ⟨howner, hstep⟩, hname⟩
      obtain ⟨k, ownerAt⟩ := (describes.exists_nodeAt_iff owner).2 howner
      exact ⟨j, n, nodeAt, hend, htype, k, owner, ownerAt, hstep, hname⟩
  have unwritten : value.Violates (.unwrittenEnd i side) ↔ n.isStep = false := by
    rw [← Bool.not_eq_true, n.isStep_iff]
    constructor
    · rintro ⟨_, m, hm, hend', htype⟩
      exact only hm hend' ▸ htype
    · exact fun htype => ⟨j, n, nodeAt, hend, htype⟩
  cases hstep : n.isStep with
  | true =>
    rw [hstep] at borrowed unwritten
    rw [if_pos rfl]
    refine .skip (fun h => Bool.noConfusion (borrowed.1 h).1) ?_
    cases strict with
    | false => exact goesThrough_nil
    | true => exact goesThrough_nil.skip fun h => Bool.noConfusion (unwritten.1 h)
  | false =>
    rw [if_neg Bool.false_ne_true]
    cases hnamed : stepNamed? n.name g.nodes with
    | some owner =>
      have told : (⟨.edgeEnd i side, .borrowedName n.id owner⟩ : Rejection).check?
          = some (.borrowedEnd i side) := rfl
      refine goesThrough_head (borrowed.2 ⟨hstep, fun hnone => ?_⟩) told _
      cases hnamed.symm.trans hnone
    | none =>
      refine .skip (fun h => (borrowed.1 h).2 hnamed) ?_
      cases strict with
      | false => exact goesThrough_nil
      | true =>
        have told : (⟨.edgeEnd i side, .notWritten n.id n.type⟩ : Rejection).check?
            = some (.unwrittenEnd i side) := rfl
        exact goesThrough_head (unwritten.2 hstep) told []

/-- An end of an edge is looked at among all nodes, once their ids are known to be distinct. -/
theorem rejects_endVerdict (distinct : (g.nodes.map Node.id).Nodup) (strict : Bool) {i : Nat}
    {e : Edge} (here : g.edges[i]? = some e) (side : EdgeEnd) :
    Rejects value (Check.amongEnds strict i side)
      ((endVerdict g.nodes (e.endAt side)).fault? strict (.edgeEnd i side)) := by
  have endAt := describes.endAt_iff here side
  have found_iff := find?_id_eq_some_iff distinct (e.endAt side)
  unfold endVerdict Check.amongEnds
  cases hmarker : isMarker (e.endAt side) with
  | true =>
    have noEnd : ∀ id, ¬ value.EndAt i side id := by
      intro id hend
      obtain ⟨hnot, rfl⟩ := (endAt id).1 hend
      cases hmarker.symm.trans hnot
    rw [if_pos rfl]
    refine .skip (fun ⟨id, h, _⟩ => noEnd id h) (.skip (fun ⟨_, n, _, h, _⟩ => noEnd n.id h) ?_)
    cases strict with
    | false => exact goesThrough_nil
    | true => exact goesThrough_nil.skip fun ⟨_, n, _, h, _⟩ => noEnd n.id h
  | false =>
    have hend := (endAt (e.endAt side)).2 ⟨hmarker, rfl⟩
    rw [if_neg Bool.false_ne_true]
    cases hfound : g.nodes.find? (·.id == e.endAt side) with
    | none =>
      have unknown : value.Violates (.unknownEnd i side) := by
        refine ⟨e.endAt side, hend, fun j n hn heq => ?_⟩
        rw [(found_iff n).2 ⟨(describes.exists_nodeAt_iff n).1 ⟨j, hn⟩, heq⟩] at hfound
        cases hfound
      have told : (⟨.edgeEnd i side, .unknownNode (e.endAt side)⟩ : Rejection).check?
          = some (.unknownEnd i side) := rfl
      exact goesThrough_head unknown told _
    | some n =>
      obtain ⟨hn, hid⟩ := (found_iff n).1 hfound
      have known : ¬ value.Violates (.unknownEnd i side) := by
        rintro ⟨id, hend', unknown⟩
        obtain ⟨j, nodeAt⟩ := (describes.exists_nodeAt_iff n).2 hn
        exact unknown j n nodeAt (hid.trans ((endAt id).1 hend').2)
      rw [← hid] at hend ⊢
      refine .skip known (rejects_endAtNode describes strict hn hend fun {j m} hm hend' => ?_)
      have again := (found_iff m).2
        ⟨(describes.exists_nodeAt_iff m).1 ⟨j, hm⟩, ((endAt m.id).1 hend').2.symm⟩
      exact (Option.some.inj (hfound.symm.trans again)).symm

theorem rejects_endVerdicts (distinct : (g.nodes.map Node.id).Nodup) (strict : Bool) :
    Rejects value ((List.range g.edges.length).flatMap (Check.amongEdges strict))
      (judge strict (endVerdicts g)).2 := by
  rw [judge_eq_findSome?]
  unfold endVerdicts edgeEnds
  rw [List.findSome?_map, findSome?_flatMap]
  refine .findSome_zipIdx fun e i here => ?_
  rw [findSome?_pair]
  exact (rejects_endVerdict describes distinct strict here .source).or fun _ =>
    rejects_endVerdict describes distinct strict here .target

/-- The structural check goes through the checks of the items among each other. -/
theorem rejects_checkStructure (strict : Bool) :
    Rejects value (Check.amongItems strict g.nodes.length g.edges.length)
      (checkStructure strict g).2 := by
  have both : (checkStructure strict g).2
      = (firstNodeFault? [] g.nodes).or (judge strict (endVerdicts g)).2 := by
    unfold checkStructure
    cases firstNodeFault? [] g.nodes <;> rfl
  rw [both]
  refine (rejects_firstNodeFault? describes).or fun hnone => ?_
  have sound := (firstNodeFault?_eq_none_iff nodesSound_nil g.nodes).1 hnone
  exact rejects_endVerdicts describes sound.ids_distinct strict

end

end GraphScribe
