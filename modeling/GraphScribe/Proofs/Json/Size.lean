import GraphScribe.Graph.Canonical
import GraphScribe.Proofs.Json.Reading
import Mathlib.Algebra.GroupWithZero.Nat
import Mathlib.Algebra.Order.BigOperators.Group.List
import Mathlib.Algebra.Order.Group.Nat

/-!
# How many octets a written graph takes

The compact form of an array takes the octets of its items, a comma between neighbours, and the two
brackets (`octets_bracketed`). So the size of a graph is a sum over its nodes and its edges
(`Graph.octets_eq`): it does not depend on their order (`Graph.octets_of_perm`), and a graph with
fewer of them is no larger (`Graph.octets_le_of_sublist`).
-/

namespace GraphScribe

/-! ## Sizes of raw texts -/

namespace RawText

theorem octets_eq_sum (raw : RawText) : octets raw = (raw.map Point.octets).sum := by
  induction raw with
  | nil => rfl
  | cons p rest ih =>
    show p.octets + octets rest = _
    rw [ih, List.map_cons, List.sum_cons]

@[simp] theorem octets_append (front back : RawText) :
    octets (front ++ back) = octets front + octets back := by
  simp [octets_eq_sum]

theorem octets_flatMap {α : Type} (f : α → RawText) (xs : List α) :
    octets (xs.flatMap f) = (xs.map fun x => octets (f x)).sum := by
  induction xs with
  | nil => rfl
  | cons x xs ih => simp [List.flatMap_cons, ih]

end RawText

/-! ## Sizes of written values -/

namespace Json

/-- The octets of written items with a comma between neighbours. -/
def listedOctets (items : List RawText) : Nat :=
  (items.map RawText.octets).sum + (items.length - 1)

theorem listedOctets_pair (a b : RawText) :
    listedOctets [a, b] = RawText.octets a + RawText.octets b + 1 := by
  simp [listedOctets]

theorem octets_bracketed (depth : Nat) {left right : Char} (hleft : left.utf8Size = 1)
    (hright : right.utf8Size = 1) (items : List RawText) :
    RawText.octets (bracketed compactLayout depth left right items) = listedOctets items + 2 := by
  have ends : RawText.octets (rawOf [left, right]) = 2 := by
    show left.utf8Size + (right.utf8Size + 0) = 2
    omega
  cases items with
  | nil => exact ends
  | cons item items =>
    have opening : RawText.octets (rawOf (left :: compactLayout.openItems depth)) = 1 := by
      show left.utf8Size + 0 = 1
      omega
    have closing : RawText.octets (rawOf (compactLayout.closeItems depth ++ [right])) = 1 := by
      show right.utf8Size + 0 = 1
      omega
    -- every further item comes with the comma before it
    have further : RawText.octets
        (items.flatMap fun next => rawOf (compactLayout.nextItem depth) ++ next)
          = (items.map RawText.octets).sum + items.length := by
      have comma : RawText.octets (rawOf (compactLayout.nextItem depth)) = 1 := rfl
      simp only [RawText.octets_flatMap, RawText.octets_append, comma]
      induction items with
      | nil => rfl
      | cons next items ih => simp only [List.map_cons, List.sum_cons, List.length_cons, ih]; omega
    show RawText.octets (_ ++ _ ++ _ ++ _) = _
    simp only [RawText.octets_append, opening, closing, further, listedOctets, List.map_cons,
      List.sum_cons, List.length_cons]
    omega

theorem listedOctets_of_perm {items items' : List RawText} (h : items.Perm items') :
    listedOctets items = listedOctets items' := by
  unfold listedOctets
  rw [(h.map RawText.octets).sum_nat, h.length_eq]

theorem listedOctets_le_of_sublist {items items' : List RawText} (h : items.Sublist items') :
    listedOctets items ≤ listedOctets items' := by
  have sums := (h.map RawText.octets).sum_le_sum fun _ _ => Nat.zero_le _
  have lengths := h.length_le
  unfold listedOctets
  omega

end Json

/-! ## Sizes of graphs -/

namespace Graph

/-- The octets of a graph: those of its nodes and of its edges, and 23 for what stands around them. -/
theorem octets_eq (g : Graph) : g.octets =
    Json.listedOctets (g.nodes.map fun n => Json.writeAt Json.compactLayout 2 n.toJson)
      + Json.listedOctets (g.edges.map fun e => Json.writeAt Json.compactLayout 2 e.toJson) + 23 := by
  have array : ∀ {α : Type} (view : α → Json) (xs : List α),
      RawText.octets (Json.writeAt Json.compactLayout (0 + 1) (.array (xs.map view)))
        = Json.listedOctets (xs.map fun x => Json.writeAt Json.compactLayout 2 (view x)) + 2 := by
    intro α view xs
    rw [Json.writeAt, Json.writeItems_eq_map, Json.octets_bracketed _ rfl rfl, List.map_map]
    rfl
  have nodes := array Node.toJson g.nodes
  have edges := array Edge.toJson g.edges
  have nodesKey : RawText.octets (Json.stringLiteral (rawOf "nodes".toList)) = 7 := by decide
  have edgesKey : RawText.octets (Json.stringLiteral (rawOf "edges".toList)) = 7 := by decide
  have colon : RawText.octets (rawOf Json.compactLayout.colon) = 1 := rfl
  have members : g.toJson = .object [Json.field "nodes" (.array (g.nodes.map Node.toJson)),
      Json.field "edges" (.array (g.edges.map Edge.toJson))] := by
    show Draft.toJson ⟨g.nodes.map Node.toDraft, g.edges⟩ = _
    rw [Draft.toJson, List.map_map]
    rfl
  unfold octets Json.compact
  rw [members, Json.writeAt, Json.writeMembers_eq_map, Json.octets_bracketed 0 rfl rfl]
  simp only [List.map_cons, List.map_nil, Json.listedOctets_pair, Json.field,
    RawText.octets_append, nodesKey, edgesKey, colon, nodes, edges]
  omega

/-- The size of a graph does not depend on the order of its nodes and edges. -/
theorem octets_of_perm {g g' : Graph} (nodes : g.nodes.Perm g'.nodes)
    (edges : g.edges.Perm g'.edges) : g.octets = g'.octets := by
  rw [octets_eq, octets_eq, Json.listedOctets_of_perm (nodes.map _),
    Json.listedOctets_of_perm (edges.map _)]

/-- A graph with fewer nodes and edges is no larger. -/
theorem octets_le_of_sublist {g g' : Graph} (nodes : g.nodes.Sublist g'.nodes)
    (edges : g.edges.Sublist g'.edges) : g.octets ≤ g'.octets := by
  have nodeOctets := Json.listedOctets_le_of_sublist
    (nodes.map fun n => Json.writeAt Json.compactLayout 2 n.toJson)
  have edgeOctets := Json.listedOctets_le_of_sublist
    (edges.map fun e => Json.writeAt Json.compactLayout 2 e.toJson)
  rw [octets_eq, octets_eq]
  omega

end Graph

end GraphScribe
