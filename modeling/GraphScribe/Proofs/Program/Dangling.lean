import GraphScribe.Proofs.Checklist
import GraphScribe.Proofs.Graph.Stored
import GraphScribe.Proofs.Service

/-!
# Dangling ends

Writing the program of a graph, checked before or not, fails exactly if an end of an edge dangles,
and the fault is at the first such end (`Graph.source_eq_error_iff`). No end of an accepted graph
dangles, so that a value is compiled exactly if it is accepted.
-/

namespace GraphScribe

namespace Graph

/-- The end of an edge is neither a marker nor the id of a node. -/
def Dangles (g : Graph) (id : Text) : Prop :=
  id ≠ "START".toList ∧ id ≠ "END".toList ∧ ∀ n ∈ g.nodes, n.id ≠ id

/-- The first end that dangles, edge by edge and each source before its target: its place and its
id. -/
def DanglesFirst (g : Graph) (i : Nat) (side : EdgeEnd) (id : Text) : Prop :=
  IsFirst (fun (_, id) => g.Dangles id) (edgeEnds g.edges) (.edgeEnd i side, id)

theorem node?_eq_none_iff (g : Graph) (id : Text) :
    g.node? id = none ↔ ∀ n ∈ g.nodes, n.id ≠ id := by
  unfold node?
  rw [List.find?_eq_none]
  simp only [beq_iff_eq, ne_eq]

theorem dangles_iff (g : Graph) (id : Text) :
    g.Dangles id ↔ isMarker id = false ∧ g.node? id = none := by
  rw [Dangles, ← and_assoc, ← not_or, ← isMarker_iff, Bool.not_eq_true, node?_eq_none_iff]

theorem exists_place_of_mem_edgeEnds {edges : List Edge} {e : Place × Text}
    (h : e ∈ edgeEnds edges) : ∃ i side, e.1 = .edgeEnd i side := by
  obtain ⟨⟨edge, i⟩, -, he⟩ := List.mem_flatMap.1 h
  rcases List.mem_cons.1 he with rfl | he
  · exact ⟨i, .source, rfl⟩
  · cases List.mem_singleton.1 he
    exact ⟨i, .target, rfl⟩

/-- Some end of the list of ends dangles exactly if an end of some edge does. -/
theorem exists_dangling_end_iff (g : Graph) :
    (∃ e ∈ edgeEnds g.edges, g.Dangles e.2) ↔
      ∃ e ∈ g.edges, g.Dangles e.source ∨ g.Dangles e.target := by
  have ids : (∃ e ∈ edgeEnds g.edges, g.Dangles e.2) ↔ ∃ id ∈ g.endIds, g.Dangles id := by
    rw [← map_snd_edgeEnds]
    simp only [List.mem_map, exists_exists_and_eq_and]
  rw [ids]
  unfold endIds
  simp only [List.mem_flatMap, List.mem_cons, List.not_mem_nil, or_false]
  constructor
  · rintro ⟨id, ⟨e, he, rfl | rfl⟩, h⟩
    · exact ⟨e, he, .inl h⟩
    · exact ⟨e, he, .inr h⟩
  · rintro ⟨e, he, h | h⟩
    · exact ⟨e.source, ⟨e, he, .inl rfl⟩, h⟩
    · exact ⟨e.target, ⟨e, he, .inr rfl⟩, h⟩

end Graph

/-! ## Planning looks at every end -/

/-- What planning goes through: ends with their places, of which each either dangles or has an
expression, and the rejection of one that dangles. -/
abbrev PlanChecks (g : Graph) : List (Place × Text) → Option Rejection → Prop :=
  GoesThrough (fun e => g.Dangles e.2) fun e r => r = ⟨e.1, .unknownNode e.2⟩

theorem Plan.endExpression_checks (g : Graph) (place : Place) (id : Text) :
    PlanChecks g [(place, id)] (faultOf (endExpression g place id)) := by
  have unknown : g.Dangles id ↔ isMarker id = false ∧ g.node? id = none := g.dangles_iff id
  unfold endExpression
  cases hmarker : isMarker id with
  | true =>
    rw [if_pos rfl]
    exact goesThrough_singleton (fun _ h => by simp [unknown, hmarker] at h) fun r h => by cases h
  | false =>
    rw [if_neg Bool.false_ne_true]
    cases hfound : g.node? id with
    | some n =>
      exact goesThrough_singleton (fun _ h => by simp [unknown, hfound] at h) fun r h => by cases h
    | none =>
      refine goesThrough_singleton (fun h => by cases h) fun r h => ?_
      cases h
      exact ⟨unknown.2 ⟨hmarker, hfound⟩, rfl⟩

theorem Plan.edgeOf_checks (g : Graph) (i : Nat) (e : Edge) :
    PlanChecks g [(.edgeEnd i .source, e.source), (.edgeEnd i .target, e.target)]
      (faultOf (edgeOf g i e)) := by
  unfold edgeOf
  refine (endExpression_checks g _ e.source).bind fun source _ => ?_
  exact (endExpression_checks g _ e.target).bind fun target _ => goesThrough_ok _

theorem Plan.ofGraph_checks (g : Graph) : PlanChecks g (edgeEnds g.edges) (faultOf (ofGraph g)) := by
  have edges : PlanChecks g (edgeEnds g.edges)
      (faultOf (g.edges.zipIdx.mapM fun numbered => edgeOf g numbered.2 numbered.1)) :=
    .mapM fun numbered _ => edgeOf_checks g numbered.2 numbered.1
  unfold ofGraph
  rw [← List.append_nil (edgeEnds g.edges)]
  exact edges.bind fun planned _ => goesThrough_ok _

theorem Graph.source_checks (g : Graph) (bootstrap : Option Text) :
    PlanChecks g (edgeEnds g.edges) (faultOf (g.source bootstrap)) := by
  unfold source
  rw [← List.append_nil (edgeEnds g.edges)]
  exact (Plan.ofGraph_checks g).bind fun plan _ => goesThrough_ok _

/-! ## Faults in words -/

theorem Rejection.message_eq {r : Rejection} {name : String} (h : r.place.name? = some name)
    (hname : name ≠ "") : r.message = name ++ (": " ++ r.reason.message) := by
  unfold message
  rw [h]
  exact (if_neg (by simpa using hname)).trans (String.append_assoc ..)

theorem Reason.message_unknownNode (id : Text) :
    (unknownNode id).message = "unknown node '" ++ (String.ofList id ++ "'") := by
  show "unknown node '" ++ String.ofList id ++ "'" = _
  exact String.append_assoc ..

theorem Rejection.message_unknownNode (i : Nat) (side : EdgeEnd) (id : Text) :
    (⟨.edgeEnd i side, .unknownNode id⟩ : Rejection).message
      = s!"edges[{i}].{side.name}: unknown node '{String.ofList id}'" := by
  have named : (Place.edgeEnd i side).name? = some s!"edges[{i}].{side.name}" := rfl
  have words : ": unknown node '" = ": " ++ "unknown node '" := by decide
  rw [message_eq named (by simp), Reason.message_unknownNode, words]
  show _ = s!"edges[{i}].{side.name}" ++ (": " ++ "unknown node '") ++ String.ofList id ++ "'"
  simp only [String.append_assoc]

/-- The program of a graph is not written exactly if the rejection tells of the first end that
dangles. -/
theorem Graph.source_eq_error_iff (g : Graph) (bootstrap : Option Text) (r : Rejection) :
    g.source bootstrap = .error r ↔
      ∃ i side id, g.DanglesFirst i side id ∧ r = ⟨.edgeEnd i side, .unknownNode id⟩ := by
  have checks := g.source_checks bootstrap
  constructor
  · intro h
    obtain ⟨⟨place, id⟩, first, rfl⟩ := checks.found r (faultOf_eq_some_iff.2 h)
    obtain ⟨i, side, rfl⟩ := exists_place_of_mem_edgeEnds first.mem
    exact ⟨i, side, id, first, rfl⟩
  · rintro ⟨i, side, id, first, rfl⟩
    obtain ⟨r, hr⟩ := checks.exists_iff.2 ⟨_, first.mem, first.holds⟩
    obtain ⟨found, first', rfl⟩ := checks.found r hr
    rw [first'.unique first] at hr
    exact faultOf_eq_some_iff.1 hr

/-! ## Accepted graphs -/

/-- The program for a JSON graph by way of the JSON form of the canonical graph. -/
def compileStored (strict : Bool) (bootstrap : Option Text) (value : Json) : Run Text := do
  let g ← canonical strict value
  let stored ← Run.ofExcept (Graph.ofJson g.toJson)
  Run.ofExcept ((stored.source bootstrap).mapError .rejected)

theorem compileStored_eq (strict : Bool) (bootstrap : Option Text) (value : Json) :
    compileStored strict bootstrap value = compile strict bootstrap value := by
  unfold compileStored compile
  simp only [Graph.ofJson_toJson]
  rfl

theorem Graph.Sound.not_dangles {strict : Bool} {g : Graph} (h : g.Sound strict) {id : Text}
    (hid : id ∈ g.endIds) : ¬ g.Dangles id := by
  rintro ⟨hstart, hend, hnode⟩
  rcases h.ends_known id hid with h | h | ⟨n, hn, h⟩
  · exact hstart h
  · exact hend h
  · exact hnode n hn h

/-- No end of an accepted graph dangles. -/
theorem not_dangles_of_canonical {strict : Bool} {value : Json} {g : Graph}
    (h : (canonical strict value).outcome = .ok g) {e : Edge} (he : e ∈ g.edges) :
    ¬ g.Dangles e.source ∧ ¬ g.Dangles e.target := by
  obtain ⟨-, -, sound⟩ := (outcome_canonical_eq_ok_iff strict value g).1 h
  exact ⟨sound.not_dangles (g.source_mem_endIds he), sound.not_dangles (g.target_mem_endIds he)⟩

/-- The program of any graph fails to be written exactly if an end of some edge dangles. The fault
is then at the first such end, edge by edge and each source before its target, and names its id. No
end of an accepted graph dangles, and so compiling a value fails exactly as making it canonical
does, also by way of the JSON form. -/
theorem source_fails_at_dangling_end :
    (∀ (g : Graph) (bootstrap : Option Text),
      ((∃ r, g.source bootstrap = .error r) ↔
        ∃ e ∈ g.edges, g.Dangles e.source ∨ g.Dangles e.target) ∧
      ∀ r, g.source bootstrap = .error r ↔
        ∃ i side id, g.DanglesFirst i side id ∧ r = ⟨.edgeEnd i side, .unknownNode id⟩ ∧
          r.message = s!"edges[{i}].{side.name}: unknown node '{String.ofList id}'") ∧
    ∀ (strict : Bool) (bootstrap : Option Text) (value : Json),
      compileStored strict bootstrap value = compile strict bootstrap value ∧
      (∀ failure, (compile strict bootstrap value).outcome = .error failure ↔
        (canonical strict value).outcome = .error failure) ∧
      ∀ g, (canonical strict value).outcome = .ok g →
        ∀ e ∈ g.edges, ¬ g.Dangles e.source ∧ ¬ g.Dangles e.target := by
  refine ⟨fun g bootstrap => ⟨?_, fun r => ?_⟩, fun strict bootstrap value => ⟨?_, ?_, ?_⟩⟩
  · rw [← g.exists_dangling_end_iff, ← (g.source_checks bootstrap).exists_iff]
    simp only [faultOf_eq_some_iff]
  · rw [g.source_eq_error_iff]
    constructor
    · rintro ⟨i, side, id, first, rfl⟩
      exact ⟨i, side, id, first, rfl, Rejection.message_unknownNode i side id⟩
    · rintro ⟨i, side, id, first, hr, -⟩
      exact ⟨i, side, id, first, hr⟩
  · exact compileStored_eq strict bootstrap value
  · exact outcome_compile_eq_error_iff strict bootstrap value
  · exact fun g h e he => not_dangles_of_canonical h he

/-- Two nodes may have one id in a graph that was not checked; an edge to a third id fails. -/
example : Graph.source ⟨[⟨"A".toList, "NODE".toList, none, none⟩, ⟨"A".toList, [], none, none⟩],
      [⟨"A".toList, "A".toList⟩, ⟨"START".toList, "B".toList⟩]⟩ none
    = .error ⟨.edgeEnd 1 .target, .unknownNode "B".toList⟩ := by rfl

end GraphScribe
