import GraphScribe.Proofs.Graph.Strict
import GraphScribe.Proofs.Graph.Trusted
import GraphScribe.Proofs.Service

/-!
# What a backend is handed

A backend is handed a graph exactly if the value is accepted, once, and the graph as it was accepted:
its JSON form is the clean form of the value. What the backend writes is then passed on as it stands,
and its failures too (`transpile_delegates`).

## The architecture

* **`exists_cleanGraph`** — the clean form of an accepted value and its graph, either from the other.
* **`Delegates`** — what the service owes to a backend and to its caller for one accepted graph, and
  **`delegates_of_ok`**.
* **`exists_asked_iff`** — a graph is handed over exactly if one was accepted.
* **`source_of_unchanged`** — a graph put together by hand, against its JSON form.
-/

namespace GraphScribe

section

variable {strict : Bool} {value : Json} {g : Graph}

/-! ## Clean forms -/

/-- The clean form of an accepted value is the JSON form of its graph, and the graph is read from it
where nothing is checked. -/
theorem exists_cleanGraph (h : (canonical strict value).outcome = .ok g) :
    ∃ d, cleanGraph value = .ok d ∧ g.toJson = d.toJson ∧ Graph.ofJson d.toJson = .ok g := by
  obtain ⟨describes, -, -⟩ := (outcome_canonical_eq_ok_iff strict value g).1 h
  exact ⟨g.toDraft, (cleanGraph_eq_ok_iff value g).2 describes, rfl, g.ofJson_toJson⟩

/-! ## One accepted graph -/

/-- The service hands the graph to the backend, once and as it was accepted, and all that the backend
does follows there. It passes on a text with a visible character as it stands, and any failure; no
text, or one without, is a failure in the backend's name. -/
structure Delegates (strict : Bool) (backend : Backend) (value : Json) (g : Graph) : Prop where
  form : ∃ d, cleanGraph value = .ok d ∧ g.toJson = d.toJson ∧ Graph.ofJson d.toJson = .ok g
  asked : ∃ before,
    (transpile strict backend value).events = before ++ .asked g :: (backend.write g).events ∧
    ∀ g', .asked g' ∉ before
  program : ∀ code, (transpile strict backend value).outcome = .ok code ↔
    (backend.write g).outcome = .ok (some code) ∧ ∃ c ∈ code, isBlankChar c = false
  blank : ∀ written, (backend.write g).outcome = .ok written →
    (∀ c ∈ written.getD [], isBlankChar c = true) →
    (transpile strict backend value).outcome = .error (.generation (.noCode backend.name))
  failed : ∀ failure, (backend.write g).outcome = .error failure →
    (transpile strict backend value).outcome = .error failure

theorem delegates_of_ok (h : (canonical strict value).outcome = .ok g) (backend : Backend) :
    Delegates strict backend value g := by
  have run := transpile_eq_of_ok h backend
  constructor
  case form => exact exists_cleanGraph h
  case asked =>
    refine ⟨(canonical strict value).events ++ [.logged (backend.startRecord g)], ?_,
      asked_not_mem (fun _ => warned_of_mem_canonical) _⟩
    rw [run, writeProgram_eq, List.append_assoc]
    rfl
  case program =>
    intro code
    have visible : Text.isBlank code = false ↔ ∃ c ∈ code, isBlankChar c = false := by
      unfold Text.isBlank
      rw [List.all_eq_false]
      simp only [Bool.not_eq_true]
    rw [run, outcome_writeProgram_eq_ok_iff, visible]
  case blank =>
    intro written hwritten blank
    rw [run, writeProgram_eq, hwritten]
    exact Backend.judge_of_blank (List.all_eq_true.2 blank)
  case failed =>
    intro failure hfailed
    rw [run, writeProgram_eq, hfailed]
    rfl

theorem exists_asked_iff (strict : Bool) (backend : Backend) (value : Json) :
    (∃ g, .asked g ∈ (transpile strict backend value).events) ↔
      ∃ g, (canonical strict value).outcome = .ok g := by
  constructor
  · intro ⟨g, hasked⟩
    cases hcanonical : (canonical strict value).outcome with
    | ok g' => exact ⟨g', rfl⟩
    | error failure =>
      rw [transpile_eq_of_error hcanonical] at hasked
      obtain ⟨w, hw⟩ := warned_of_mem_canonical hasked
      cases hw
  · intro ⟨g, hcanonical⟩
    refine ⟨g, ?_⟩
    rw [transpile_eq_of_ok hcanonical, writeProgram_eq]
    exact List.mem_append_right _ (List.mem_cons_of_mem _ List.mem_cons_self)

/-! ## Graphs put together by hand -/

/-- A graph whose JSON form is accepted unchanged has no lone halves, and what is compiled from its
JSON form is its own program. -/
theorem source_of_unchanged {r : RawGraph} (h : (canonical strict r.toJson).outcome = .ok g)
    (unchanged : g.toJson = r.toJson) : r = g.toRaw ∧ ∀ bootstrap, ∃ code,
      g.source bootstrap = .ok code ∧ (compile strict bootstrap r.toJson).outcome = .ok code := by
  obtain ⟨plan, hplan, compiled⟩ := exists_plan_of_canonical h
  refine ⟨RawGraph.eq_toRaw_of_toJson_eq unchanged, fun bootstrap => ?_⟩
  exact ⟨plan.source bootstrap, Graph.source_of_plan hplan bootstrap, compiled bootstrap⟩

end

/-- A value reaches the backend exactly if it is accepted. If it is not, the run ends as the run that
makes it canonical, for every backend. If it is, the backend is handed its graph, and what it writes
is passed on. A graph is read back from its JSON form as it was, also by the reading that has room for
lone halves, of which the other one is what is left without them; so where the JSON form of a graph
is accepted unchanged, compiling it gives the program of the graph. -/
theorem transpile_delegates (strict : Bool) (backend : Backend) (value : Json) :
    ((∃ g, .asked g ∈ (transpile strict backend value).events) ↔
      ∃ g, (canonical strict value).outcome = .ok g) ∧
    (∀ failure, (canonical strict value).outcome = .error failure →
      transpile strict backend value = ⟨(canonical strict value).events, .error failure⟩) ∧
    (∀ g, (canonical strict value).outcome = .ok g → Delegates strict backend value g) ∧
    (∀ g : Graph, Graph.ofJson g.toJson = .ok g) ∧
    (∀ r : RawGraph, RawGraph.ofJson r.toJson = .ok r) ∧
    (∀ stored, Graph.ofJson stored = (RawGraph.ofJson stored).map RawGraph.toGraph) ∧
    ∀ (r : RawGraph) (g : Graph), (canonical strict r.toJson).outcome = .ok g →
      g.toJson = r.toJson → r = g.toRaw ∧ ∀ bootstrap, ∃ code, g.source bootstrap = .ok code ∧
        (compile strict bootstrap r.toJson).outcome = .ok code := by
  exact ⟨exists_asked_iff strict backend value, fun failure h => transpile_eq_of_error h backend,
    fun g h => delegates_of_ok h backend, Graph.ofJson_toJson, RawGraph.ofJson_toJson,
    Graph.ofJson_eq_map, fun r g h unchanged => source_of_unchanged h unchanged⟩

/-- A backend with nothing visible to say is asked for `conversation`, whose JSON form is accepted
unchanged. -/
theorem transpile_delegates_conversation :
    (transpile false (.fixed "mute".toList (.ok (some [' ', '\n']))) rawConversation).outcome
        = .error (.generation (.noCode "mute".toList)) ∧
      ∃ code, conversation.source none = .ok code ∧
        (compile false none conversation.toRaw.toJson).outcome = .ok code := by
  obtain ⟨-, -, accepted, -, -, -, unchanged⟩ := transpile_delegates false
    (.fixed "mute".toList (.ok (some [' ', '\n']))) rawConversation
  have stored : (canonical false conversation.toRaw.toJson).outcome = .ok conversation := by
    rw [Graph.toJson_toRaw, canonical_toJson_eq outcome_canonical_rawConversation]
    exact outcome_canonical_rawConversation
  have blank : Text.isBlank [' ', '\n'] = true := rfl
  have delegates := accepted conversation outcome_canonical_rawConversation
  constructor
  · exact delegates.blank _ rfl (List.all_eq_true.1 blank)
  · exact (unchanged _ _ stored conversation.toJson_toRaw.symm).2 none

end GraphScribe
