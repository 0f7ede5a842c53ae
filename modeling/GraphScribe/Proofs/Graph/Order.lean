import GraphScribe.Graph.Document
import GraphScribe.Proofs.Graph.Acceptance
import GraphScribe.Proofs.Graph.Editing
import GraphScribe.Proofs.Json.Size
import Mathlib.Data.List.FinRange

/-!
# The order of nodes and edges

The structural check looks at one node after the other and remembers what it has seen, and the size is
taken of a written text. Still, whether a value is accepted does not depend on the order in which it
lists its nodes and its edges, and the order of the accepted graph is that of the value
(`outcome_canonical_rearranged_iff`).

## The architecture

* **`rearrange`**: the items of a list in another order. What relates two lists one by one relates
  them in the new order too (`forall₂_rearrange`).
* **`Graph.Sound.of_perm`**, **`Graph.octets_of_perm`**: what is asked of a graph as a whole is said
  without any order, so that nothing has to be known of the walks of the check.
* **`describes_rearranged_iff`**: a rearranged value describes the rearranged graph.
-/

namespace GraphScribe

/-! ## Rearranged lists -/

section

variable {α β : Type} {k : Nat} (σ : Equiv.Perm (Fin k))

/-- The items of a list of length `k` in another order: at the place `i` stands the item that stood
at the place `σ i`. -/
def rearrange (items : List α) : List α := (List.finRange k).filterMap fun i => items[(σ i).val]?

theorem rearrange_nil : rearrange σ ([] : List α) = [] := by simp [rearrange]

theorem rearrange_perm {items : List α} (h : items.length = k) : (rearrange σ items).Perm items := by
  subst h
  -- the places in their own order give the list itself
  have inOrder : (List.finRange items.length).filterMap (fun i => items[i.val]?) = items := by
    have found : (fun i : Fin items.length => items[i.val]?) = some ∘ fun i => items[i.val] := by
      funext i
      simp
    rw [found, List.filterMap_eq_map, List.map_getElem_finRange]
  have places : rearrange σ items
      = ((List.finRange items.length).map σ).filterMap fun i => items[i.val]? := by
    rw [List.filterMap_map]
    rfl
  rw [places]
  conv_rhs => rw [← inOrder]
  exact σ.map_finRange_perm.filterMap _

theorem forall₂_rearrange {R : α → β → Prop} {xs : List α} {ys : List β} (h : List.Forall₂ R xs ys) :
    List.Forall₂ R (rearrange σ xs) (rearrange σ ys) := by
  obtain ⟨hlen, related⟩ := List.forall₂_iff_get.1 h
  unfold rearrange
  induction List.finRange k with
  | nil => exact .nil
  | cons i places ih =>
    by_cases hi : (σ i).val < xs.length
    · have hi' : (σ i).val < ys.length := hlen ▸ hi
      simp only [List.filterMap_cons, List.getElem?_eq_getElem hi, List.getElem?_eq_getElem hi']
      exact .cons (related _ hi hi') ih
    · have hi' : ¬ (σ i).val < ys.length := hlen ▸ hi
      simp only [List.filterMap_cons, List.getElem?_eq_none (Nat.not_lt.1 hi),
        List.getElem?_eq_none (Nat.not_lt.1 hi')]
      exact ih

/-- What the rearranged items are related to is a rearranged list as well. -/
theorem exists_of_forall₂_rearrange {R : α → β → Prop} (unique : Relator.RightUnique R) {xs : List α}
    (hlen : xs.length = k) {zs : List β} (h : List.Forall₂ R (rearrange σ xs) zs) :
    ∃ ys, List.Forall₂ R xs ys ∧ zs = rearrange σ ys := by
  -- every item is somewhere in the new order, so it is related to something
  have somewhere : ∀ x ∈ xs, ∃ y, R x y := by
    intro x hx
    obtain ⟨y, -, hy⟩ := exists_of_mem_forall₂ h.flip ((rearrange_perm σ hlen).mem_iff.2 hx)
    exact ⟨y, hy⟩
  obtain ⟨ys, hys⟩ := exists_forall₂ somewhere
  exact ⟨ys, hys, unique.forall₂ h (forall₂_rearrange σ hys)⟩

end

/-- The graph with its nodes and its edges in other orders. -/
def Graph.rearranged {k l : Nat} (σ : Equiv.Perm (Fin k)) (τ : Equiv.Perm (Fin l)) (g : Graph) :
    Graph :=
  ⟨rearrange σ g.nodes, rearrange τ g.edges⟩

/-- The value with its nodes and its edges in other orders. -/
def Json.rearranged {k l : Nat} (σ : Equiv.Perm (Fin k)) (τ : Equiv.Perm (Fin l)) (value : Json) :
    Json :=
  (value.mapNodes (rearrange σ)).mapEdges (rearrange τ)

/-! ## Sound graphs -/

theorem NodesSound.of_perm {nodes nodes' : List Node} (h : nodes.Perm nodes')
    (sound : NodesSound nodes) : NodesSound nodes' where
  ids_distinct := (h.map Node.id).nodup_iff.1 sound.ids_distinct
  ids_free n hn := sound.ids_free n (h.mem_iff.2 hn)
  names_free n hn := sound.names_free n (h.mem_iff.2 hn)
  step_names_distinct := ((h.filter Node.isStep).map Node.name).nodup_iff.1 sound.step_names_distinct

theorem Graph.endIds_perm {g g' : Graph} (edges : g.edges.Perm g'.edges) : g.endIds.Perm g'.endIds :=
  edges.flatMap_right _

theorem Graph.Sound.of_perm {strict : Bool} {g g' : Graph} (nodes : g.nodes.Perm g'.nodes)
    (edges : g.edges.Perm g'.edges) (sound : g.Sound strict) : g'.Sound strict where
  toNodesSound := sound.toNodesSound.of_perm nodes
  ends_known id hid := by
    rcases sound.ends_known id ((endIds_perm edges).mem_iff.2 hid) with h | h | ⟨n, hn, h⟩
    · exact Or.inl h
    · exact Or.inr (Or.inl h)
    · exact Or.inr (Or.inr ⟨n, nodes.mem_iff.1 hn, h⟩)
  ends_own_name n hn hid hother m hm :=
    sound.ends_own_name n (nodes.mem_iff.2 hn) ((endIds_perm edges).mem_iff.2 hid) hother m
      (nodes.mem_iff.2 hm)
  ends_steps hstrict n hn hid :=
    sound.ends_steps hstrict n (nodes.mem_iff.2 hn) ((endIds_perm edges).mem_iff.2 hid)

theorem Graph.sound_iff_of_perm {strict : Bool} {g g' : Graph} (nodes : g.nodes.Perm g'.nodes)
    (edges : g.edges.Perm g'.edges) : g.Sound strict ↔ g'.Sound strict :=
  ⟨Sound.of_perm nodes edges, Sound.of_perm nodes.symm edges.symm⟩

/-! ## Rearranged values -/

namespace Json

/-- The nodes that a value lists; none if it has no array of them. -/
def nodeItems (value : Json) : List Json := itemsOf (member "nodes" (membersOf value))

/-- The edges that a value lists; none if it has no array of them. -/
def edgeItems (value : Json) : List Json := itemsOf (member "edges" (membersOf value))

theorem ItemsOf.itemsOf_eq {value : Json} {items : List Json} (h : value.ItemsOf items) :
    itemsOf value = items := by
  rcases h with ⟨rfl, rfl⟩ | rfl
  · rfl
  · rfl

theorem Lists.items_eq {value : Json} {nodes edges : List Json} (h : value.Lists nodes edges) :
    value.nodeItems = nodes ∧ value.edgeItems = edges := by
  obtain ⟨members, rfl, hnodes, hedges⟩ := h
  exact ⟨hnodes.itemsOf_eq, hedges.itemsOf_eq⟩

theorem lists_rearranged_iff {k l : Nat} (σ : Equiv.Perm (Fin k)) (τ : Equiv.Perm (Fin l))
    (value : Json) (nodes edges : List Json) : (value.rearranged σ τ).Lists nodes edges ↔
      ∃ nodes' edges', value.Lists nodes' edges' ∧ nodes = rearrange σ nodes' ∧
        edges = rearrange τ edges' := by
  unfold rearranged
  simp only [lists_mapEdges_iff (rearrange_nil τ), lists_mapNodes_iff (rearrange_nil σ)]
  constructor
  · rintro ⟨edges', ⟨nodes', h, hnodes⟩, hedges⟩
    exact ⟨nodes', edges', h, hnodes, hedges⟩
  · rintro ⟨nodes', edges', h, hnodes, hedges⟩
    exact ⟨edges', ⟨nodes', h, hnodes⟩, hedges⟩

end Json

theorem Json.Describes.length_eq {value : Json} {g : Graph} (h : value.Describes g) :
    g.nodes.length = value.nodeItems.length ∧ g.edges.length = value.edgeItems.length := by
  obtain ⟨nodes, edges, lists, -, -, hnodes, hedges⟩ := (Json.describes_iff value g).1 h
  obtain ⟨hn, he⟩ := lists.items_eq
  rw [hn, he]
  exact ⟨hnodes.length_eq.symm, hedges.length_eq.symm⟩

section

variable {value : Json} (σ : Equiv.Perm (Fin value.nodeItems.length))
  (τ : Equiv.Perm (Fin value.edgeItems.length))

/-- A rearranged value describes the rearranged graph of the value, and nothing else. -/
theorem describes_rearranged_iff (g' : Graph) : (value.rearranged σ τ).Describes g' ↔
    ∃ g, value.Describes g ∧ g' = g.rearranged σ τ := by
  simp only [Json.describes_iff, Json.lists_rearranged_iff]
  constructor
  · rintro ⟨_, _, ⟨nodes, edges, lists, rfl, rfl⟩, fewNodes, fewEdges, hnodes, hedges⟩
    obtain ⟨nodesHere, edgesHere⟩ := lists.items_eq
    have nodesLength := congrArg List.length nodesHere.symm
    have edgesLength := congrArg List.length edgesHere.symm
    obtain ⟨ns, hns, hns'⟩ := exists_of_forall₂_rearrange σ Json.rightUnique_nodeOf nodesLength hnodes
    obtain ⟨es, hes, hes'⟩ := exists_of_forall₂_rearrange τ Json.rightUnique_edgeOf edgesLength hedges
    rw [(rearrange_perm σ nodesLength).length_eq] at fewNodes
    rw [(rearrange_perm τ edgesLength).length_eq] at fewEdges
    refine ⟨⟨ns, es⟩, ⟨nodes, edges, lists, fewNodes, fewEdges, hns, hes⟩, ?_⟩
    cases g'
    exact congrArg₂ Graph.mk hns' hes'
  · rintro ⟨g, ⟨nodes, edges, lists, fewNodes, fewEdges, hnodes, hedges⟩, rfl⟩
    obtain ⟨nodesHere, edgesHere⟩ := lists.items_eq
    have nodesPerm := rearrange_perm σ (congrArg List.length nodesHere.symm)
    have edgesPerm := rearrange_perm τ (congrArg List.length edgesHere.symm)
    refine ⟨_, _, ⟨nodes, edges, lists, rfl, rfl⟩, ?_, ?_, forall₂_rearrange σ hnodes,
      forall₂_rearrange τ hedges⟩
    · rw [nodesPerm.length_eq]
      exact fewNodes
    · rw [edgesPerm.length_eq]
      exact fewEdges

/-- Acceptance does not depend on the order of nodes and edges: a rearranged value is accepted exactly
if the value is, and it is accepted as the graph of the value, rearranged in the same way. -/
theorem outcome_canonical_rearranged_iff (strict : Bool) (g' : Graph) :
    (canonical strict (value.rearranged σ τ)).outcome = .ok g' ↔
      ∃ g, (canonical strict value).outcome = .ok g ∧ g' = g.rearranged σ τ := by
  have same : ∀ g, value.Describes g → (g.rearranged σ τ).octets = g.octets ∧
      ((g.rearranged σ τ).Sound strict ↔ g.Sound strict) := by
    intro g describes
    obtain ⟨nodesLength, edgesLength⟩ := describes.length_eq
    have nodes := rearrange_perm σ nodesLength
    have edges := rearrange_perm τ edgesLength
    exact ⟨Graph.octets_of_perm nodes edges, Graph.sound_iff_of_perm nodes edges⟩
  simp only [outcome_canonical_eq_ok_iff, describes_rearranged_iff]
  constructor
  · rintro ⟨⟨g, describes, rfl⟩, small, sound⟩
    obtain ⟨octets, soundness⟩ := same g describes
    exact ⟨g, ⟨describes, octets ▸ small, soundness.1 sound⟩, rfl⟩
  · rintro ⟨g, ⟨describes, small, sound⟩, rfl⟩
    obtain ⟨octets, soundness⟩ := same g describes
    exact ⟨⟨g, describes, rfl⟩, octets.symm ▸ small, soundness.2 sound⟩

end

end GraphScribe
