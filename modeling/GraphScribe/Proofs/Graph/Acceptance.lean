import GraphScribe.Proofs.Graph.Rules
import GraphScribe.Proofs.Graph.Sound
import GraphScribe.Proofs.Json.Plain
import GraphScribe.Service

/-!
# Which values are accepted, and as what

A value is accepted exactly if it describes a sound graph of at most 200000 octets, and is accepted
as that graph (`outcome_canonical_eq_ok_iff`). The run on a value that describes a graph depends on
that graph alone (`canonical_eq_checked`), so that making a graph canonical twice is the same as
doing it once.
-/

namespace GraphScribe

/-! ## The size of a draft -/

/-- The strings of a node's JSON form are texts exactly if the node is one of a graph. -/
theorem DraftNode.plain_toJson_iff (n : DraftNode) :
    (∀ t ∈ Json.texts n.toJson, RawText.Plain t) ↔ ∃ m : Node, n = m.toDraft := by
  obtain ⟨id, type, label, code⟩ := n
  have key : ∀ s : String, RawText.Plain (rawOf s.toList) := fun s => RawText.plain_rawOf _
  constructor
  · intro h
    have htype : RawText.Plain type := h _ (by
      simp [DraftNode.toJson, Json.texts, Json.textsOfMembers, Json.field, Json.text])
    have hlabel : ∀ l, label = some l → RawText.Plain l := by
      rintro l rfl
      exact h _ (by
        simp [DraftNode.toJson, Json.texts, Json.textsOfMembers, Json.field, Json.text,
          optionalField])
    have hcode : ∀ c, code = some c → RawText.Plain c := by
      rintro c rfl
      exact h _ (by
        cases label <;> simp [DraftNode.toJson, Json.texts, Json.textsOfMembers, Json.field,
          Json.text, optionalField])
    obtain ⟨type', rfl⟩ := (RawText.plain_iff_exists_rawOf type).1 htype
    have part : ∀ part : Option RawText, (∀ t, part = some t → RawText.Plain t) →
        ∃ part' : Option Text, part = part'.map rawOf := by
      intro part hpart
      cases part with
      | none => exact ⟨none, rfl⟩
      | some t =>
        obtain ⟨t', rfl⟩ := (RawText.plain_iff_exists_rawOf t).1 (hpart t rfl)
        exact ⟨some t', rfl⟩
    obtain ⟨label', rfl⟩ := part label hlabel
    obtain ⟨code', rfl⟩ := part code hcode
    exact ⟨⟨id, type', label', code'⟩, rfl⟩
  · rintro ⟨m, hm⟩
    rw [hm]
    obtain ⟨id', type', label', code'⟩ := m
    cases label' <;> cases code' <;>
      simp [Node.toDraft, DraftNode.toJson, Json.texts, Json.textsOfMembers, Json.field, Json.text,
        optionalField, RawText.plain_rawOf]

/-- A draft is one of a graph exactly if each of its nodes is one of a node. -/
theorem Draft.exists_toDraft_iff (d : Draft) :
    (∃ g : Graph, d = g.toDraft) ↔ ∀ n ∈ d.nodes, ∃ m : Node, n = m.toDraft := by
  constructor
  · rintro ⟨g, rfl⟩ n hn
    obtain ⟨m, -, hm⟩ := List.mem_map.1 hn
    exact ⟨m, hm.symm⟩
  · intro h
    refine ⟨d.toGraph, ?_⟩
    obtain ⟨nodes, edges⟩ := d
    -- every node is the draft of a node, so nothing is lost by reading the draft as a graph
    have same : nodes.map (Node.toDraft ∘ DraftNode.toNode) = nodes := by
      conv_rhs => rw [← List.map_id nodes]
      refine List.map_congr_left fun n hn => ?_
      obtain ⟨m, rfl⟩ := h n hn
      rw [Function.comp_apply, Node.toNode_toDraft]
      rfl
    simp only [Draft.toGraph, Graph.toDraft, List.map_map, same]

/-- The JSON form of a draft can be encoded exactly if the draft is one of a graph. -/
theorem Draft.plain_compact_iff (d : Draft) :
    RawText.Plain d.toJson.compact ↔ ∃ g : Graph, d = g.toDraft := by
  -- ids and the ends of edges are texts already, so only the nodes matter
  have parts : RawText.Plain d.toJson.compact ↔
      ∀ n ∈ d.nodes, ∀ t ∈ Json.texts n.toJson, RawText.Plain t := by
    have edges : ∀ t ∈ Json.textsOfItems (d.edges.map Edge.toJson), RawText.Plain t := by
      simp only [Json.mem_textsOfItems_iff, List.mem_map]
      rintro t ⟨-, ⟨e, -, rfl⟩, ht⟩
      simp only [Edge.toJson, Json.texts, Json.textsOfMembers, Json.field, Json.text, List.mem_append,
        List.mem_cons, List.not_mem_nil, or_false] at ht
      rcases ht with (rfl | rfl) | (rfl | rfl) <;> exact RawText.plain_rawOf _
    unfold Json.compact
    rw [Json.plain_writeAt_iff]
    simp only [Draft.toJson, Json.texts, Json.textsOfMembers, Json.field, List.append_nil,
      List.forall_mem_append, List.forall_mem_cons, RawText.plain_rawOf, true_and]
    rw [and_iff_left edges]
    simp only [Json.mem_textsOfItems_iff, List.mem_map]
    constructor
    · exact fun h n hn t ht => h t ⟨n.toJson, ⟨n, hn, rfl⟩, ht⟩
    · rintro h t ⟨-, ⟨n, hn, rfl⟩, ht⟩
      exact h n hn t ht
  rw [parts, d.exists_toDraft_iff]
  simp only [DraftNode.plain_toJson_iff]

/-- The draft of a graph is sealed as that graph unless it is too large. -/
theorem Graph.seal_toDraft (g : Graph) : g.toDraft.seal =
    if 200000 < g.octets then .error (.rejected ⟨.graph, .tooLarge g.octets⟩) else .ok g := by
  have plain := (RawText.firstLoneRun?_eq_none_iff _).2 (g.toDraft.plain_compact_iff.2 ⟨g, rfl⟩)
  have size : g.toDraft.octets = .ok g.octets := by
    unfold Draft.octets
    dsimp only
    rw [plain]
    rfl
  unfold Draft.seal
  rw [size, ok_bind, g.toGraph_toDraft]
  unfold octetLimit
  rfl

/-- A draft is sealed as a graph exactly if it is the draft of that graph, which is small enough. -/
theorem Draft.seal_eq_ok_iff (d : Draft) (g : Graph) :
    d.seal = .ok g ↔ d = g.toDraft ∧ g.octets ≤ 200000 := by
  constructor
  · intro h
    -- a lone half anywhere would have been reported before the size
    have draft : ∃ g : Graph, d = g.toDraft := by
      rw [← d.plain_compact_iff, ← RawText.firstLoneRun?_eq_none_iff]
      unfold Draft.seal Draft.octets at h
      dsimp only at h
      cases hrun : RawText.firstLoneRun? d.toJson.compact with
      | none => rfl
      | some run =>
        rw [hrun] at h
        cases h
    obtain ⟨g', rfl⟩ := draft
    rw [Graph.seal_toDraft] at h
    split at h
    · cases h
    · next hsmall =>
      injection h with h
      exact h ▸ ⟨rfl, Nat.not_lt.1 hsmall⟩
  · rintro ⟨rfl, hsmall⟩
    rw [Graph.seal_toDraft, if_neg (Nat.not_lt.2 hsmall)]

theorem Graph.plain_toJson (g : Graph) : g.toJson.Plain := by
  have compact : RawText.Plain g.toJson.compact := (Draft.plain_compact_iff g.toDraft).2 ⟨g, rfl⟩
  exact (Json.plain_writeAt_iff _ _ _).1 compact

/-! ## The run on a value -/

theorem outcome_checked_eq_ok_iff (strict : Bool) (g g' : Graph) :
    (checked strict g).outcome = .ok g' ↔ g = g' ∧ g.Sound strict := by
  rw [← checkStructure_eq_none_iff]
  unfold checked
  cases hcheck : checkStructure strict g with
  | mk warnings fault =>
    cases fault with
    | none => simp
    | some rejection => exact iff_of_false (fun h => by cases h) fun h => by cases h.2

/-- Only the graph that a value describes matters to the run. -/
theorem canonical_eq_checked {value : Json} {g : Graph} (h : value.Describes g)
    (small : g.octets ≤ 200000) (strict : Bool) : canonical strict value = checked strict g := by
  have cleaned : (cleanGraph value).mapError Failure.rejected = .ok g.toDraft :=
    mapError_eq_ok_iff.2 ((cleanGraph_eq_ok_iff value g).2 h)
  have sealed := (Draft.seal_eq_ok_iff g.toDraft g).2 ⟨rfl, small⟩
  unfold canonical
  rw [cleaned, Run.bind_of_ok _ (rfl : (Run.ofExcept (Except.ok g.toDraft)).outcome = _), sealed,
    Run.bind_of_ok _ (rfl : (Run.ofExcept (Except.ok g)).outcome = _)]
  rfl

/-- A value is accepted as a graph exactly if it describes that graph, which is sound and small
enough. -/
theorem outcome_canonical_eq_ok_iff (strict : Bool) (value : Json) (g : Graph) :
    (canonical strict value).outcome = .ok g ↔
      value.Describes g ∧ g.octets ≤ 200000 ∧ g.Sound strict := by
  constructor
  · intro h
    have parts := h
    unfold canonical at parts
    rw [Run.outcome_bind] at parts
    obtain ⟨d, hd, hrest⟩ := bind_eq_ok_iff.1 parts
    rw [Run.outcome_bind] at hrest
    obtain ⟨g', hg', -⟩ := bind_eq_ok_iff.1 hrest
    obtain ⟨rfl, small⟩ := (d.seal_eq_ok_iff g').1 hg'
    have describes := (cleanGraph_eq_ok_iff value g').1 (mapError_eq_ok_iff.1 hd)
    -- the run is now known to be the check of the graph that was sealed
    rw [canonical_eq_checked describes small, outcome_checked_eq_ok_iff] at h
    exact h.1 ▸ ⟨describes, small, h.2⟩
  · rintro ⟨describes, small, sound⟩
    rw [canonical_eq_checked describes small, outcome_checked_eq_ok_iff]
    exact ⟨rfl, sound⟩

/-- Acceptance, exactly: a value is accepted if and only if it describes a sound graph of at most
200000 octets. -/
theorem exists_canonical_iff (strict : Bool) (value : Json) :
    (∃ g, (canonical strict value).outcome = .ok g) ↔
      ∃ g : Graph, value.Describes g ∧ g.octets ≤ 200000 ∧ g.Sound strict := by
  constructor
  · rintro ⟨g, h⟩
    exact ⟨g, (outcome_canonical_eq_ok_iff strict value g).1 h⟩
  · rintro ⟨g, h⟩
    exact ⟨g, (outcome_canonical_eq_ok_iff strict value g).2 h⟩

/-! ## A graph with something to clean -/

/-- A value in which every part needs cleaning: blanks around an id, an absent type, controls and
quotes in labels, two labels with one slug, code that looks like a registration, blank code, a note
under the name of a step, and an edge to a node that is no step. -/
def rawConversation : Json :=
  .object [
    Json.field "nodes" (.array [
      .object [Json.field "id" (.text " ask\t".toList), Json.field "type" .null,
        Json.field "label" (.text "\x00 Say \"it's\"\n".toList),
        Json.field "code" (.text "  x = 1\x07\n  graph_builder.add_node('z', f)\n".toList)],
      .object [Json.field "id" (.text "tell".toList), Json.field "label" (.text "say, it's".toList)],
      .object [Json.field "id" (.text "hint".toList), Json.field "type" (.text " HINT\x7f".toList),
        Json.field "label" (.text "  ".toList), Json.field "code" (.text " \n".toList)],
      .object [Json.field "id" (.text "memo".toList), Json.field "type" (.text "NOTE".toList),
        Json.field "label" (.text "say, it's".toList)]]),
    Json.field "edges" (.array [
      .object [Json.field "source" (.text "START".toList), Json.field "target" (.text "ask".toList)],
      .object [Json.field "source" (.text "ask ".toList), Json.field "target" (.text "tell".toList)],
      .object [Json.field "source" (.text "tell".toList), Json.field "target" (.text "hint".toList)],
      .object [Json.field "source" (.text "tell".toList), Json.field "target" (.text "END".toList)]])]

/-- The graph that `rawConversation` is accepted as. -/
def conversation : Graph where
  nodes := [
    ⟨"ask".toList, "NODE".toList, some "Say \"it's\"".toList,
      some "  x = 1\n  graph_builder.add_node('z', f)\n".toList⟩,
    ⟨"tell".toList, "NODE".toList, some "say, it's".toList, none⟩,
    ⟨"hint".toList, "HINT".toList, none, none⟩,
    ⟨"memo".toList, "NOTE".toList, some "say, it's".toList, none⟩]
  edges := [⟨"START".toList, "ask".toList⟩, ⟨"ask".toList, "tell".toList⟩,
    ⟨"tell".toList, "hint".toList⟩, ⟨"tell".toList, "END".toList⟩]

theorem outcome_canonical_rawConversation :
    (canonical false rawConversation).outcome = .ok conversation :=
  eq_ok_of_toOption (by decide +kernel)

/-! ## Making a graph canonical twice -/

/-- The run on the JSON form of an accepted graph is the run on the value it was accepted from. -/
theorem canonical_toJson_eq {strict : Bool} {value : Json} {g : Graph}
    (h : (canonical strict value).outcome = .ok g) :
    canonical strict g.toJson = canonical strict value := by
  obtain ⟨describes, small, -⟩ := (outcome_canonical_eq_ok_iff strict value g).1 h
  -- both values describe `g`, and the run knows nothing else of them
  rw [canonical_eq_checked describes small, canonical_eq_checked describes.toJson small]

/-- The JSON form of an accepted graph is accepted as that graph, with the same warnings, and is
compiled to the same program with any bootstrap fragment. -/
theorem canonical_toJson {strict : Bool} {value : Json} {g : Graph}
    (h : (canonical strict value).outcome = .ok g) :
    (canonical strict g.toJson).outcome = .ok g ∧
      (canonical strict g.toJson).warnings = (canonical strict value).warnings ∧
      ∀ bootstrap, compile strict bootstrap g.toJson = compile strict bootstrap value := by
  have same := canonical_toJson_eq h
  refine ⟨same ▸ h, congrArg Run.warnings same, fun bootstrap => ?_⟩
  unfold compile
  rw [same]

theorem canonical_toJson_conversation :
    (canonical false conversation.toJson).outcome = .ok conversation ∧
      (canonical false conversation.toJson).warnings = (canonical false rawConversation).warnings ∧
      ∀ bootstrap, compile false bootstrap conversation.toJson
        = compile false bootstrap rawConversation :=
  canonical_toJson outcome_canonical_rawConversation

end GraphScribe
