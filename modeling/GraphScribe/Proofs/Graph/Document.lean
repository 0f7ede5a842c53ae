import GraphScribe.Graph.Draft
import GraphScribe.Proofs.Json.Reading
import GraphScribe.Proofs.Text.Plain

/-!
# The JSON form of any graph

A graph that a program puts together by hand need not be clean: lone halves of surrogate pairs may
stand in any of its texts. The JSON form tells such a graph completely (`RawGraph.toJson_injective`),
and holds nothing but texts, nested three deep (`RawGraph.textual_toJson`). For the graphs without
lone halves it is the JSON form they have anyway (`Graph.toJson_toRaw`).
-/

namespace GraphScribe

/-- A node with any code points in its texts. -/
structure RawNode where
  id : RawText
  type : RawText
  label : Option RawText
  code : Option RawText

structure RawEdge where
  source : RawText
  target : RawText

structure RawGraph where
  nodes : List RawNode
  edges : List RawEdge

def RawNode.toJson (n : RawNode) : Json :=
  .object (Json.field "id" (.string n.id) :: Json.field "type" (.string n.type)
    :: optionalField "label" n.label ++ optionalField "code" n.code)

def RawEdge.toJson (e : RawEdge) : Json :=
  .object [Json.field "source" (.string e.source), Json.field "target" (.string e.target)]

def RawGraph.toJson (g : RawGraph) : Json :=
  .object [Json.field "nodes" (.array (g.nodes.map RawNode.toJson)),
           Json.field "edges" (.array (g.edges.map RawEdge.toJson))]

/-! ## Graphs without lone halves -/

def Node.toRaw (n : Node) : RawNode :=
  ⟨rawOf n.id, rawOf n.type, n.label.map rawOf, n.code.map rawOf⟩

def Edge.toRaw (e : Edge) : RawEdge := ⟨rawOf e.source, rawOf e.target⟩

def Graph.toRaw (g : Graph) : RawGraph := ⟨g.nodes.map Node.toRaw, g.edges.map Edge.toRaw⟩

theorem Graph.toJson_toRaw (g : Graph) : g.toRaw.toJson = g.toJson := by
  have nodes : (g.nodes.map Node.toRaw).map RawNode.toJson
      = (g.nodes.map Node.toDraft).map DraftNode.toJson := by
    rw [List.map_map, List.map_map]
    rfl
  have edges : (g.edges.map Edge.toRaw).map RawEdge.toJson = g.edges.map Edge.toJson := by
    rw [List.map_map]
    rfl
  show Json.object [_, _] = Json.object [_, _]
  rw [show g.toRaw.nodes = g.nodes.map Node.toRaw from rfl, nodes,
    show g.toRaw.edges = g.edges.map Edge.toRaw from rfl, edges]
  rfl

theorem Node.toRaw_injective : Function.Injective Node.toRaw := by
  rintro ⟨id, type, label, code⟩ ⟨id', type', label', code'⟩ h
  simp only [Node.toRaw, RawNode.mk.injEq, rawOf_injective.eq_iff,
    (Option.map_injective rawOf_injective).eq_iff] at h
  exact (Node.mk.injEq ..).mpr h

theorem Edge.toRaw_injective : Function.Injective Edge.toRaw := by
  rintro ⟨source, target⟩ ⟨source', target'⟩ h
  simp only [Edge.toRaw, RawEdge.mk.injEq, rawOf_injective.eq_iff] at h
  exact (Edge.mk.injEq ..).mpr h

theorem Graph.toRaw_injective : Function.Injective Graph.toRaw := by
  rintro ⟨nodes, edges⟩ ⟨nodes', edges'⟩ h
  simp only [Graph.toRaw, RawGraph.mk.injEq, (List.map_injective_iff.2 Node.toRaw_injective).eq_iff,
    (List.map_injective_iff.2 Edge.toRaw_injective).eq_iff] at h
  exact (Graph.mk.injEq ..).mpr h

/-! ## What the JSON form tells -/

/-- Two members that may be absent are told apart by their keys. -/
theorem optionalField_append_inj {s t : String} (hkeys : rawOf s.toList ≠ rawOf t.toList)
    {a a' b b' : Option RawText}
    (h : optionalField s a ++ optionalField t b = optionalField s a' ++ optionalField t b') :
    a = a' ∧ b = b' := by
  have hkeys' := hkeys.symm
  cases a <;> cases a' <;> cases b <;> cases b'
  all_goals simp_all [optionalField, Json.field]

theorem RawNode.toJson_injective : Function.Injective RawNode.toJson := by
  rintro ⟨id, type, label, code⟩ ⟨id', type', label', code'⟩ h
  simp only [RawNode.toJson, Json.object.injEq, Json.field, List.cons_append, List.cons.injEq,
    Prod.mk.injEq, Json.string.injEq, true_and] at h
  obtain ⟨hid, htype, hparts⟩ := h
  obtain ⟨hlabel, hcode⟩ := optionalField_append_inj (by decide) hparts
  rw [hid, htype, hlabel, hcode]

theorem RawEdge.toJson_injective : Function.Injective RawEdge.toJson := by
  rintro ⟨source, target⟩ ⟨source', target'⟩ h
  simp only [RawEdge.toJson, Json.object.injEq, Json.field, List.cons.injEq, Prod.mk.injEq,
    Json.string.injEq, true_and, and_true] at h
  rw [h.1, h.2]

theorem RawGraph.toJson_injective : Function.Injective RawGraph.toJson := by
  rintro ⟨nodes, edges⟩ ⟨nodes', edges'⟩ h
  simp only [RawGraph.toJson, Json.object.injEq, Json.field, List.cons.injEq, Prod.mk.injEq,
    Json.array.injEq, true_and, and_true] at h
  rw [List.map_injective_iff.2 RawNode.toJson_injective h.1,
    List.map_injective_iff.2 RawEdge.toJson_injective h.2]

/-! ## How deep the JSON form is nested -/

theorem eq_string_of_mem_optionalField {key : String} {part : Option RawText}
    {m : RawText × Json} (h : m ∈ optionalField key part) : ∃ t, m.2 = .string t := by
  cases part with
  | none => exact absurd h List.not_mem_nil
  | some t => exact ⟨t, by rw [List.eq_of_mem_singleton h]; rfl⟩

theorem RawNode.textual_toJson (k : Nat) (n : RawNode) : Json.Textual (k + 1) n.toJson := by
  apply Json.Textual.object
  intro m hm
  have text : ∃ t, m.2 = .string t := by
    rw [List.mem_append, List.mem_cons, List.mem_cons] at hm
    rcases hm with (rfl | rfl | hm) | hm
    · exact ⟨n.id, rfl⟩
    · exact ⟨n.type, rfl⟩
    · exact eq_string_of_mem_optionalField hm
    · exact eq_string_of_mem_optionalField hm
  obtain ⟨t, ht⟩ := text
  rw [ht]
  exact .string k t

theorem RawEdge.textual_toJson (k : Nat) (e : RawEdge) : Json.Textual (k + 1) e.toJson := by
  apply Json.Textual.object
  simp only [List.forall_mem_cons, Json.field]
  exact ⟨.string k _, .string k _, by simp⟩

theorem RawGraph.textual_toJson (k : Nat) (g : RawGraph) : Json.Textual (k + 3) g.toJson := by
  apply Json.Textual.object
  simp only [List.forall_mem_cons, Json.field]
  refine ⟨.array ?_, .array ?_, by simp⟩
  · simpa only [List.forall_mem_map] using fun n _ => RawNode.textual_toJson k n
  · simpa only [List.forall_mem_map] using fun e _ => RawEdge.textual_toJson k e

theorem Graph.textual_toJson (k : Nat) (g : Graph) : Json.Textual (k + 3) g.toJson := by
  rw [← g.toJson_toRaw]
  exact RawGraph.textual_toJson k g.toRaw

end GraphScribe
