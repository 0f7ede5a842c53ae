import GraphScribe.Proofs.Graph.Acceptance

/-!
# How making a graph canonical ends

With a graph, or with a rejection at a place that has a name. There is one gap: where all parts of a
value are clean and a lone half has remained in one of them, the size of the whole cannot be taken,
and the run ends with a failure that is no rejection (`canonical_ends`).

## The architecture

* **Places**: every rejection of cleaning and of the structure is at a place of the document.
* **Lone halves**: cleaning keeps the lone halves of types, labels and code, so that what is cleaned
  is the draft of a graph exactly if there was none (`exists_toDraft_iff_of_cleanGraph`).
* **Ends**: the run of `canonical` by what was cleaned.
-/

namespace GraphScribe

/-! ## Places -/

/-- A place of the document itself, and not one that a caller made up or left out. -/
def Place.InDocument : Place → Prop
  | .named _ | .nowhere => False
  | _ => True

namespace Rejection

/-- A rejection at a place that has a name. -/
def Located (r : Rejection) : Prop := ∃ name, r.place.name? = some name ∧ name ≠ ""

theorem located_of_inDocument {r : Rejection} (h : r.place.InDocument) : r.Located := by
  obtain ⟨place, reason⟩ := r
  cases place with
  | named name => exact absurd h not_false
  | nowhere => exact absurd h not_false
  | body => exact ⟨_, rfl, by decide⟩
  | graph => exact ⟨_, rfl, by decide⟩
  | nodes => exact ⟨_, rfl, by decide⟩
  | edges => exact ⟨_, rfl, by decide⟩
  | node index => exact ⟨_, rfl, by simp [String.append_eq_empty_iff]⟩
  | nodeField index field => exact ⟨_, rfl, by simp [String.append_eq_empty_iff]⟩
  | edge index => exact ⟨_, rfl, by simp [String.append_eq_empty_iff]⟩
  | edgeEnd index side => exact ⟨_, rfl, by simp [String.append_eq_empty_iff]⟩

end Rejection

/-- Rejections at places of the document. -/
abbrev InDocument (r : Rejection) : Prop := r.place.InDocument

theorem failsAs_expectObject {kind : Rejection → Prop} {place : Place}
    (h : kind ⟨place, .notObject⟩) (value : Json) : FailsAs kind (expectObject place value) := by
  cases value with
  | object members => exact failsAs_ok members
  | _ => exact failsAs_error h

theorem failsAs_expectArray {kind : Rejection → Prop} {place : Place}
    (h : kind ⟨place, .notArray⟩) (value : Json) : FailsAs kind (expectArray place value) := by
  cases value with
  | null => exact failsAs_ok []
  | array items => exact failsAs_ok items
  | _ => exact failsAs_error h

theorem inDocument_at' {α : Type} {place : Place} (h : place.InDocument)
    (result : Except Reason α) : FailsAs InDocument (at' place result) := by
  have placed : ∀ reason, InDocument ⟨place, reason⟩ := fun _ => h
  exact failsAs_mapError placed result

theorem inDocument_cleanNode (index : Nat) (value : Json) :
    FailsAs InDocument (cleanNode index value) := by
  have node : (Place.node index).InDocument := trivial
  have field : ∀ f, (Place.nodeField index f).InDocument := fun _ => trivial
  unfold cleanNode
  refine (failsAs_expectObject node value).bind fun members => ?_
  apply FailsAs.bind (inDocument_at' (field .id) _)
  intro id
  apply FailsAs.bind (inDocument_at' (field .type) _)
  intro type
  apply FailsAs.bind (inDocument_at' (field .label) _)
  intro label
  apply FailsAs.bind (inDocument_at' (field .code) _)
  intro code
  exact failsAs_ok _

theorem inDocument_cleanEdge (index : Nat) (value : Json) :
    FailsAs InDocument (cleanEdge index value) := by
  have edge : (Place.edge index).InDocument := trivial
  have side : ∀ s, (Place.edgeEnd index s).InDocument := fun _ => trivial
  unfold cleanEdge
  refine (failsAs_expectObject edge value).bind fun members => ?_
  apply FailsAs.bind (inDocument_at' (side .source) _)
  intro source
  apply FailsAs.bind (inDocument_at' (side .target) _)
  intro target
  exact failsAs_ok _

theorem inDocument_cleanGraph (value : Json) : FailsAs InDocument (cleanGraph value) := by
  have graph : Place.graph.InDocument := trivial
  have nodesPlace : Place.nodes.InDocument := trivial
  have edgesPlace : Place.edges.InDocument := trivial
  unfold cleanGraph
  refine (failsAs_expectObject graph value).bind fun members => ?_
  refine (failsAs_expectArray nodesPlace _).bind fun nodes => ?_
  refine (failsAs_expectArray edgesPlace _).bind fun edges => ?_
  split
  · exact failsAs_error nodesPlace
  split
  · exact failsAs_error edgesPlace
  apply FailsAs.bind
  · apply failsAs_mapM
    exact fun item => inDocument_cleanNode item.2 item.1
  intro draftNodes
  apply FailsAs.bind
  · apply failsAs_mapM
    exact fun item => inDocument_cleanEdge item.2 item.1
  intro draftEdges
  exact failsAs_ok _

theorem inDocument_nodeFault? {earlier : List Node} {n : Node} {r : Rejection}
    (h : nodeFault? earlier n = some r) : InDocument r := by
  unfold nodeFault? at h
  dsimp only at h
  split at h
  · cases h
    trivial
  split at h
  · cases h
    trivial
  split at h
  · cases h
    trivial
  split at h
  · obtain ⟨owner, -, rfl⟩ := Option.map_eq_some_iff.1 h
    trivial
  · cases h

theorem inDocument_firstNodeFault? {earlier rest : List Node} {r : Rejection}
    (h : firstNodeFault? earlier rest = some r) : InDocument r := by
  induction rest generalizing earlier with
  | nil => cases h
  | cons n rest ih =>
    unfold firstNodeFault? at h
    split at h
    · next fault hfault =>
      cases h
      exact inDocument_nodeFault? hfault
    · exact ih h

/-- The first fault among some ends is at the place of one of them. -/
theorem exists_place_of_judge {strict : Bool} {verdicts : List (Place × Verdict)} {r : Rejection}
    (h : (judge strict verdicts).2 = some r) : ∃ verdict, (r.place, verdict) ∈ verdicts := by
  induction verdicts with
  | nil => cases h
  | cons first rest ih =>
    obtain ⟨place, verdict⟩ := first
    have later : (judge strict rest).2 = some r →
        ∃ verdict', (r.place, verdict') ∈ (place, verdict) :: rest := by
      intro hrest
      obtain ⟨verdict', hmem⟩ := ih hrest
      exact ⟨verdict', List.mem_cons_of_mem _ hmem⟩
    unfold judge at h
    cases verdict with
    | sound => exact later h
    | refused reason =>
      cases h
      exact ⟨_, List.mem_cons_self⟩
    | dubious reason =>
      cases strict with
      | true =>
        cases h
        exact ⟨_, List.mem_cons_self⟩
      | false => exact later h

theorem inDocument_checkStructure {strict : Bool} {g : Graph} {r : Rejection}
    (h : (checkStructure strict g).2 = some r) : InDocument r := by
  unfold checkStructure at h
  split at h
  · next fault hfault =>
    cases h
    exact inDocument_firstNodeFault? hfault
  · obtain ⟨verdict, hmem⟩ := exists_place_of_judge h
    -- the places of verdicts are those of the ends of edges
    unfold endVerdicts edgeEnds at hmem
    obtain ⟨⟨place, id⟩, hend, heq⟩ := List.mem_map.1 hmem
    obtain ⟨⟨e, i⟩, -, hside⟩ := List.mem_flatMap.1 hend
    have hplace : place = r.place := congrArg Prod.fst heq
    show r.place.InDocument
    rw [← hplace]
    rcases List.mem_pair.1 hside with hside | hside
    · cases hside
      trivial
    · cases hside
      trivial

/-! ## Lone halves -/

namespace Json

/-- The value is no string with a lone half in it. -/
def Whole (value : Json) : Prop := ∀ raw, value = .string raw → RawText.Plain raw

theorem Plain.whole {value : Json} (h : value.Plain) : value.Whole := by
  rintro raw rfl
  exact h raw (List.mem_singleton.2 rfl)

/-- A node without lone halves in the three parts that are kept as they come. -/
def WholeNode (value : Json) : Prop :=
  ∀ members, value = .object members →
    (member "type" members).Whole ∧ (member "label" members).Whole ∧ (member "code" members).Whole

/-- A lone half stands in the type, the label or the code of a node. -/
def HoldsHalf (value : Json) : Prop :=
  ∃ members nodes node, value = .object members ∧ (member "nodes" members).ItemsOf nodes ∧
    node ∈ nodes ∧ ¬ node.WholeNode

theorem holdsHalf_object_iff {members : List (RawText × Json)} {nodes : List Json}
    (h : (member "nodes" members).ItemsOf nodes) :
    (object members).HoldsHalf ↔ ∃ node ∈ nodes, ¬ node.WholeNode := by
  constructor
  · rintro ⟨members', nodes', node, heq, h', hnode, hhalf⟩
    cases heq
    exact ⟨node, h'.unique h ▸ hnode, hhalf⟩
  · rintro ⟨node, hnode, hhalf⟩
    exact ⟨members, nodes, node, rfl, h, hnode, hhalf⟩

/-- Every part of the value passes its own check, and a lone half has remained. -/
def Blocked (value : Json) : Prop := (∃ d, cleanGraph value = .ok d) ∧ value.HoldsHalf

end Json

/-- A part is kept without lone halves exactly if it comes without them. This holds of any cleaning
function that accepts null and strings alone, and is plain on a string exactly if the string is. -/
theorem exists_view_iff_whole {β γ : Type} {clean : Json → Except Reason β} {view : γ → β}
    (other : ∀ value, value ≠ .null → (∀ raw, value ≠ .string raw) → clean value = .error .notString)
    (null : ∃ c, clean .null = .ok (view c))
    (plain : ∀ raw c, clean (.string raw) = .ok (view c) → RawText.Plain raw)
    (text : ∀ t b, clean (.text t) = .ok b → ∃ c, b = view c) {value : Json} {b : β}
    (h : clean value = .ok b) : (∃ c, b = view c) ↔ value.Whole := by
  by_cases hnull : value = .null
  · subst hnull
    obtain ⟨c, hc⟩ := null
    rw [h] at hc
    exact iff_of_true ⟨c, Except.ok.inj hc⟩ fun raw hraw => Json.noConfusion hraw
  by_cases hstring : ∃ raw, value = .string raw
  · obtain ⟨raw, rfl⟩ := hstring
    constructor
    · rintro ⟨c, rfl⟩ raw' hraw
      cases hraw
      exact plain raw c h
    · intro whole
      obtain ⟨t, rfl⟩ := (RawText.plain_iff_exists_rawOf raw).1 (whole raw rfl)
      exact text t b h
  · rw [other value hnull fun raw hraw => hstring ⟨raw, hraw⟩] at h
    cases h

theorem exists_rawOf_iff_of_cleanType {value : Json} {type : RawText}
    (h : cleanType value = .ok type) : (∃ t, type = rawOf t) ↔ value.Whole := by
  have null : ∃ t, cleanType .null = .ok (rawOf t) := ⟨stepType, rfl⟩
  have text : ∀ t type, cleanType (.text t) = .ok type → ∃ t', type = rawOf t' := by
    intro t type htype
    rw [cleanType_text] at htype
    split at htype
    · cases htype
    · exact ⟨_, (Except.ok.inj htype).symm⟩
  exact exists_view_iff_whole (fun _ => cleanType_of_other) null (fun _ _ => plain_of_cleanType) text h

theorem exists_rawOf_iff_of_cleanLabel {value : Json} {label : Option RawText}
    (h : cleanLabel value = .ok label) : (∃ t : Option Text, label = t.map rawOf) ↔ value.Whole := by
  have null : ∃ t : Option Text, cleanLabel .null = .ok (t.map rawOf) := ⟨none, rfl⟩
  have text : ∀ t label, cleanLabel (.text t) = .ok label →
      ∃ t' : Option Text, label = t'.map rawOf := by
    intro t label hlabel
    rw [cleanLabel_text] at hlabel
    split at hlabel
    · cases hlabel
    · exact ⟨_, (Except.ok.inj hlabel).symm⟩
  exact exists_view_iff_whole (fun _ => cleanLabel_of_other) null (fun _ _ => plain_of_cleanLabel) text h

theorem exists_rawOf_iff_of_cleanCode {value : Json} {code : Option RawText}
    (h : cleanCode value = .ok code) : (∃ t : Option Text, code = t.map rawOf) ↔ value.Whole := by
  have null : ∃ t : Option Text, cleanCode .null = .ok (t.map rawOf) := ⟨none, rfl⟩
  have text : ∀ t code, cleanCode (.text t) = .ok code →
      ∃ t' : Option Text, code = t'.map rawOf := by
    intro t code hcode
    rw [cleanCode_text] at hcode
    split at hcode
    · exact ⟨none, (Except.ok.inj hcode).symm⟩
    split at hcode
    · cases hcode
    · exact ⟨some (Text.multiline t), (Except.ok.inj hcode).symm⟩
  exact exists_view_iff_whole (fun _ => cleanCode_of_other) null (fun _ _ => plain_of_cleanCode) text h

/-- A cleaned node is one of a graph exactly if no lone half was in its parts. -/
theorem exists_toDraft_iff_of_cleanNode {index : Nat} {value : Json} {n : DraftNode}
    (h : cleanNode index value = .ok n) : (∃ m : Node, n = m.toDraft) ↔ value.WholeNode := by
  unfold cleanNode at' at h
  simp only [bind_eq_ok_iff, expectObject_eq_ok_iff, mapError_eq_ok_iff] at h
  obtain ⟨members, rfl, id, -, type, htype, label, hlabel, code, hcode, heq⟩ := h
  cases heq
  have parts : (∃ m : Node, (⟨id, type, label, code⟩ : DraftNode) = m.toDraft) ↔
      (∃ t, type = rawOf t) ∧ (∃ t : Option Text, label = t.map rawOf) ∧
        ∃ t : Option Text, code = t.map rawOf := by
    constructor
    · rintro ⟨m, hm⟩
      cases hm
      exact ⟨⟨m.type, rfl⟩, ⟨m.label, rfl⟩, ⟨m.code, rfl⟩⟩
    · rintro ⟨⟨type', rfl⟩, ⟨label', rfl⟩, ⟨code', rfl⟩⟩
      exact ⟨⟨id, type', label', code'⟩, rfl⟩
  rw [parts, exists_rawOf_iff_of_cleanType htype, exists_rawOf_iff_of_cleanLabel hlabel,
    exists_rawOf_iff_of_cleanCode hcode]
  constructor
  · intro whole members' heq
    cases heq
    exact whole
  · exact fun whole => whole members rfl

/-- In a value without lone halves none has remained. -/
theorem Json.Plain.not_holdsHalf {value : Json} (h : value.Plain) : ¬ value.HoldsHalf := by
  rintro ⟨members, nodes, node, rfl, hnodes, hnode, hhalf⟩
  have array : Json.member "nodes" members = .array nodes := by
    rcases hnodes with ⟨-, rfl⟩ | harray
    · exact absurd hnode List.not_mem_nil
    · exact harray
  have plainNode : node.Plain := by
    have plainNodes := h.member "nodes"
    rw [array] at plainNodes
    exact plainNodes.item hnode
  apply hhalf
  rintro parts rfl
  exact ⟨(plainNode.member "type").whole, (plainNode.member "label").whole,
    (plainNode.member "code").whole⟩

theorem cleanNode_eq_ok_iff_zero (index : Nat) (value : Json) (n : DraftNode) :
    cleanNode index value = .ok n ↔ cleanNode 0 value = .ok n := by
  unfold cleanNode at'
  simp only [bind_eq_ok_iff, expectObject_eq_ok_iff, mapError_eq_ok_iff]

/-- What is cleaned is the draft of a graph exactly if no lone half was in the nodes. -/
theorem exists_toDraft_iff_of_cleanGraph {value : Json} {d : Draft} (h : cleanGraph value = .ok d) :
    (∃ g : Graph, d = g.toDraft) ↔ ¬ value.HoldsHalf := by
  unfold cleanGraph at h
  simp only [bind_eq_ok_iff, expectObject_eq_ok_iff, expectArray_eq_ok_iff] at h
  obtain ⟨members, rfl, nodes, hnodes, edges, -, h⟩ := h
  split at h
  · cases h
  split at h
  · cases h
  simp only [bind_eq_ok_iff] at h
  obtain ⟨draftNodes, hdraft, draftEdges, -, heq⟩ := h
  cases heq
  have related := (mapM_zipIdx_eq_ok_iff cleanNode_eq_ok_iff_zero 0 nodes draftNodes).1 hdraft
  have nodewise : (∀ v ∈ nodes, v.WholeNode) ↔ ∀ n ∈ draftNodes, ∃ m : Node, n = m.toDraft := by
    refine forall_mem_iff_of_forall₂ ?_ related
    exact fun v n hn => (exists_toDraft_iff_of_cleanNode hn).symm
  rw [Draft.exists_toDraft_iff, ← nodewise, Json.holdsHalf_object_iff hnodes]
  simp only [not_exists, not_and, not_not]

/-! ## Ends -/

theorem seal_of_not_exists_toDraft {d : Draft} (h : ¬ ∃ g : Graph, d = g.toDraft) :
    ∃ position run, d.seal = .error (.unencodable position run) := by
  rw [← d.plain_compact_iff, ← RawText.firstLoneRun?_eq_none_iff] at h
  obtain ⟨⟨position, run⟩, hrun⟩ := Option.ne_none_iff_exists'.1 h
  refine ⟨position, run, ?_⟩
  have octets : d.octets = .error (.unencodable position run) := by
    unfold Draft.octets
    dsimp only
    rw [hrun]
  unfold Draft.seal
  rw [octets]
  rfl

/-- How making a graph canonical ends, by whether the value is blocked. -/
structure Ends (value : Json) (outcome : Except Failure Graph) : Prop where
  blocked : value.Blocked → ∃ position run, outcome = .error (.unencodable position run)
  free : ¬ value.Blocked →
    (∃ g, outcome = .ok g) ∨ ∃ r, outcome = .error (.rejected r) ∧ r.Located

theorem ends_canonical (strict : Bool) (value : Json) :
    Ends value (canonical strict value).outcome := by
  cases hclean : cleanGraph value with
  | error r =>
    have run : canonical strict value = .fail (.rejected r) := by
      unfold canonical
      rw [hclean]
      rfl
    have located : r.Located :=
      Rejection.located_of_inDocument (inDocument_cleanGraph value r hclean)
    rw [run]
    constructor
    · rintro ⟨⟨d, hd⟩, -⟩
      rw [hclean] at hd
      cases hd
    · exact fun _ => Or.inr ⟨r, rfl, located⟩
  | ok d =>
    have run : canonical strict value = Run.ofExcept d.seal >>= checked strict := by
      unfold canonical
      rw [hclean]
      rfl
    rw [run]
    by_cases hhalf : value.HoldsHalf
    · have lost : ¬ ∃ g : Graph, d = g.toDraft := by
        rw [exists_toDraft_iff_of_cleanGraph hclean, not_not]
        exact hhalf
      obtain ⟨position, lone, hseal⟩ := seal_of_not_exists_toDraft lost
      rw [hseal]
      constructor
      · exact fun _ => ⟨position, lone, rfl⟩
      · exact fun free => absurd ⟨⟨d, hclean⟩, hhalf⟩ free
    obtain ⟨g, rfl⟩ := (exists_toDraft_iff_of_cleanGraph hclean).2 hhalf
    constructor
    · exact fun blocked => absurd blocked.2 hhalf
    intro _
    rw [Graph.seal_toDraft]
    split
    · exact Or.inr ⟨_, rfl, Rejection.located_of_inDocument trivial⟩
    show (∃ g', (checked strict g).outcome = .ok g') ∨
      ∃ r, (checked strict g).outcome = .error (.rejected r) ∧ r.Located
    unfold checked
    cases hcheck : checkStructure strict g with
    | mk warnings fault =>
      cases fault with
      | none => exact Or.inl ⟨g, rfl⟩
      | some r =>
        have placed : InDocument r := inDocument_checkStructure (congrArg Prod.snd hcheck)
        exact Or.inr ⟨r, rfl, Rejection.located_of_inDocument placed⟩

/-- The graph in a request body; a body without one, and a value that is no body, has null. -/
def Json.bodyGraph (body : Json) : Json := (body.get? "graphJSON").getD .null

theorem Json.Plain.bodyGraph {body : Json} (h : body.Plain) : body.bodyGraph.Plain := by
  cases body with
  | object members => exact h.member "graphJSON"
  | _ => exact Json.plain_null

theorem ends_canonicalRequest (strict : Bool) (body : Json) :
    Ends body.bodyGraph (canonicalRequest strict body).outcome := by
  cases body with
  | object members => exact ends_canonical strict _
  | _ =>
    constructor
    · rintro ⟨⟨d, hd⟩, -⟩
      cases hd
    · exact fun _ => Or.inr ⟨⟨.body, .notObject⟩, rfl, Rejection.located_of_inDocument trivial⟩

/-- Making a graph canonical, from a value and from a request body, ends with a graph or with a
rejection at a named place, unless everything else is right and a lone half has remained in a type, a
label or some code: such a value is neither accepted nor rejected. -/
theorem canonical_ends (strict : Bool) (value : Json) :
    Ends value (canonical strict value).outcome ∧
      Ends value.bodyGraph (canonicalRequest strict value).outcome :=
  ⟨ends_canonical strict value, ends_canonicalRequest strict value⟩

/-- A node whose label is the first half of a surrogate pair. -/
def halfLabelled : Json :=
  .object [Json.field "nodes" (.array [
    .object [Json.field "id" (.text "a".toList), Json.field "label" (.string [.lone 61])]])]

/-- A text of JSON holds it. It is no graph, and it is not rejected. -/
theorem halfLabelled_neither :
    Json.read (rawOf "\x7b\"nodes\":[\x7b\"id\":\"a\",\"label\":\"\\ud83d\"\x7d]\x7d".toList)
        = .ok halfLabelled ∧
      ¬ ((∃ g, (canonical false halfLabelled).outcome = .ok g) ∨
        ∃ r, (canonical false halfLabelled).outcome = .error (.rejected r) ∧ r.Located) := by
  have lost : (canonical false halfLabelled).outcome = .error (.unencodable 43 [.lone 61]) := rfl
  refine ⟨rfl, ?_⟩
  rw [lost]
  rintro (⟨g, h⟩ | ⟨r, h, -⟩)
  · cases h
  · cases h

end GraphScribe
