import GraphScribe.Proofs.Graph.Rules

/-!
# Values with edited lists

What becomes of a JSON value as a graph when its list of nodes or of edges is changed and everything
else is left as it is. Whatever the change, the edited value lists what the change makes of the list
(`lists_mapNodes_iff`, `lists_mapEdges_iff`), and a value describes a graph by its two lists alone
(`describes_iff`).
-/

namespace GraphScribe.Json

/-! ## Edits -/

/-- The value with its items changed, if it is an array. -/
def mapItems (f : List Json → List Json) : Json → Json
  | array items => array (f items)
  | other => other

/-- Some members with the values under a key changed. -/
def mapUnder (key : String) (f : Json → Json) (members : List (RawText × Json)) :
    List (RawText × Json) :=
  members.map fun m => if m.1 = rawOf key.toList then (m.1, f m.2) else m

/-- The value with what it has under a key changed, if it is an object. -/
def mapMember (key : String) (f : Json → Json) : Json → Json
  | object members => object (mapUnder key f members)
  | other => other

/-- The value with its list of nodes changed. -/
def mapNodes (f : List Json → List Json) (value : Json) : Json := value.mapMember "nodes" (mapItems f)

/-- The value with its list of edges changed. -/
def mapEdges (f : List Json → List Json) (value : Json) : Json := value.mapMember "edges" (mapItems f)

/-! ## Members of edited values -/

section

variable (key : String) (f : Json → Json) (members : List (RawText × Json))

theorem lastMember?_mapUnder_self :
    lastMember? (rawOf key.toList) (mapUnder key f members)
      = (lastMember? (rawOf key.toList) members).map f := by
  induction members with
  | nil => rfl
  | cons m rest ih =>
    obtain ⟨k, v⟩ := m
    unfold mapUnder at ih ⊢
    rw [List.map_cons]
    by_cases hkey : k = rawOf key.toList
    · rw [if_pos hkey, lastMember?, lastMember?, ih, if_pos hkey, if_pos hkey]
      cases lastMember? (rawOf key.toList) rest <;> rfl
    · rw [if_neg hkey, lastMember?, lastMember?, ih, if_neg hkey]
      cases lastMember? (rawOf key.toList) rest <;> rfl

/-- What an object has under another key is not changed. -/
theorem member_mapUnder_of_ne (other : String) (h : rawOf other.toList ≠ rawOf key.toList) :
    member other (mapUnder key f members) = member other members := by
  have found : lastMember? (rawOf other.toList) (mapUnder key f members)
      = lastMember? (rawOf other.toList) members := by
    induction members with
    | nil => rfl
    | cons m rest ih =>
      obtain ⟨k, v⟩ := m
      unfold mapUnder at ih ⊢
      rw [List.map_cons]
      by_cases hkey : k = rawOf key.toList
      · have hother : ¬ k = rawOf other.toList := fun heq => h (heq.symm.trans hkey)
        rw [if_pos hkey, lastMember?, lastMember?, ih, if_neg hother, if_neg hother]
      · rw [if_neg hkey, lastMember?, lastMember?, ih]
  unfold member
  rw [found]

variable {f}

/-- What an object has under the key is changed. An absent member counts as null, so null has to
stay as it is. -/
theorem member_mapUnder_self (hf : f null = null) :
    member key (mapUnder key f members) = f (member key members) := by
  unfold member
  rw [lastMember?_mapUnder_self]
  cases lastMember? (rawOf key.toList) members with
  | none => exact hf.symm
  | some v => rfl

end

/-! ## Edits one after the other -/

theorem mapItems_mapItems (f f' : List Json → List Json) (value : Json) :
    mapItems f' (mapItems f value) = mapItems (f' ∘ f) value := by
  cases value <;> rfl

/-- Two edits of the nodes, one after the other, are one edit. -/
theorem mapNodes_mapNodes (f f' : List Json → List Json) (value : Json) :
    (value.mapNodes f).mapNodes f' = value.mapNodes (f' ∘ f) := by
  cases value with
  | object members =>
    show object (mapUnder _ _ (mapUnder _ _ members)) = object (mapUnder _ _ members)
    unfold mapUnder
    rw [object.injEq, List.map_map]
    refine List.map_congr_left fun m _ => ?_
    by_cases hkey : m.1 = rawOf "nodes".toList
    · simp only [Function.comp_apply, if_pos hkey, mapItems_mapItems]
    · simp only [Function.comp_apply, if_neg hkey]
  | _ => rfl

/-! ## The two lists of a value -/

/-- The value is an object with these nodes and these edges. -/
def Lists (value : Json) (nodes edges : List Json) : Prop :=
  ∃ members, value = object members ∧ (member "nodes" members).ItemsOf nodes ∧
    (member "edges" members).ItemsOf edges

theorem describes_iff (value : Json) (g : Graph) :
    value.Describes g ↔ ∃ nodes edges, value.Lists nodes edges ∧ nodes.length ≤ 200 ∧
      edges.length ≤ 600 ∧ List.Forall₂ NodeOf nodes g.nodes ∧ List.Forall₂ EdgeOf edges g.edges := by
  constructor
  · rintro ⟨members, nodes, edges, heq, hnodes, hedges, rest⟩
    exact ⟨nodes, edges, ⟨members, heq, hnodes, hedges⟩, rest⟩
  · rintro ⟨nodes, edges, ⟨members, heq, hnodes, hedges⟩, rest⟩
    exact ⟨members, nodes, edges, heq, hnodes, hedges, rest⟩

section

variable {f : List Json → List Json} (hf : f [] = [])

include hf

theorem itemsOf_mapItems_iff (value : Json) (items : List Json) :
    (mapItems f value).ItemsOf items ↔ ∃ items', value.ItemsOf items' ∧ items = f items' := by
  unfold ItemsOf
  cases value <;> simp [mapItems, hf, eq_comm]

theorem lists_mapNodes_iff (value : Json) (nodes edges : List Json) :
    (value.mapNodes f).Lists nodes edges ↔ ∃ nodes', value.Lists nodes' edges ∧ nodes = f nodes' := by
  cases value with
  | object members =>
    have hnodes := member_mapUnder_self "nodes" members (f := mapItems f) rfl
    have hedges := member_mapUnder_of_ne "nodes" (mapItems f) members "edges" (by decide)
    simp only [Lists, mapNodes, mapMember, object.injEq, exists_eq_left', hnodes, hedges,
      itemsOf_mapItems_iff hf]
    constructor
    · rintro ⟨⟨nodes', h, rfl⟩, h'⟩
      exact ⟨nodes', ⟨h, h'⟩, rfl⟩
    · rintro ⟨nodes', ⟨h, h'⟩, rfl⟩
      exact ⟨⟨nodes', h, rfl⟩, h'⟩
  | _ => simp [Lists, mapNodes, mapMember]

theorem lists_mapEdges_iff (value : Json) (nodes edges : List Json) :
    (value.mapEdges f).Lists nodes edges ↔ ∃ edges', value.Lists nodes edges' ∧ edges = f edges' := by
  cases value with
  | object members =>
    have hedges := member_mapUnder_self "edges" members (f := mapItems f) rfl
    have hnodes := member_mapUnder_of_ne "edges" (mapItems f) members "nodes" (by decide)
    simp only [Lists, mapEdges, mapMember, object.injEq, exists_eq_left', hnodes, hedges,
      itemsOf_mapItems_iff hf]
    constructor
    · rintro ⟨h, edges', h', rfl⟩
      exact ⟨edges', ⟨h, h'⟩, rfl⟩
    · rintro ⟨edges', ⟨h, h'⟩, rfl⟩
      exact ⟨h, edges', h', rfl⟩
  | _ => simp [Lists, mapEdges, mapMember]

end

/-! ## What items stand for -/

theorem rightUnique_nodeOf : Relator.RightUnique NodeOf := by
  intro value n n' h h'
  have cleaned := (cleanNode_eq_ok_iff 0 value n).2 h
  rw [(cleanNode_eq_ok_iff 0 value n').2 h', Except.ok.injEq] at cleaned
  rw [← n.toNode_toDraft, ← n'.toNode_toDraft, cleaned]

theorem rightUnique_edgeOf : Relator.RightUnique EdgeOf := by
  intro value e e' h h'
  have cleaned := (cleanEdge_eq_ok_iff 0 value e).2 h
  rw [(cleanEdge_eq_ok_iff 0 value e').2 h', Except.ok.injEq] at cleaned
  exact cleaned.symm

/-- A value describes one graph at most. -/
theorem Describes.unique {value : Json} {g g' : Graph} (h : value.Describes g)
    (h' : value.Describes g') : g = g' := by
  have cleaned := (cleanGraph_eq_ok_iff value g).2 h
  rw [(cleanGraph_eq_ok_iff value g').2 h', Except.ok.injEq] at cleaned
  rw [← g.toGraph_toDraft, ← cleaned, g'.toGraph_toDraft]

end GraphScribe.Json
