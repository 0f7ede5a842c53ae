import GraphScribe.Proofs.Api.Posted
import GraphScribe.Proofs.Graph.Order

/-!
# What the log tells of a graph

The records of a run tell how many nodes and edges the graph has, and nothing else of it: two accepted
graphs of the same size leave the same records behind wherever the backend answers them alike, and a
rejected graph leaves none (`records_tell_size`).

## The architecture

* **`recordsIn`** — the records among some events. Where nothing happens but warnings there are none.
* **`Run.LogAlike`** — two runs with the same records, and with the same failure for a record to be
  written about.
* **`Backend.AnswersAlike`** — what a backend may make of two graphs without telling them apart, and
  **`Backend.logAlike_write`**: it then writes for both alike.
* **`logAlike_writeProgram`**, **`logAlike_transpile`**, **`Api.App.logAlike_perform`**,
  **`Api.App.recordsIn_respond`** — the same for the service, stage by stage, up to the answer to a
  request.
-/

namespace GraphScribe

/-! ## The records among events -/

/-- The log records among some events, in order. -/
def recordsIn (events : List Event) : List Record :=
  events.filterMap fun
    | .logged r => some r
    | _ => none

theorem Run.records_eq {α : Type} (run : Run α) : run.records = recordsIn run.events := rfl

theorem recordsIn_append (before after : List Event) :
    recordsIn (before ++ after) = recordsIn before ++ recordsIn after :=
  List.filterMap_append

theorem recordsIn_of_warned {events : List Event} (h : ∀ e ∈ events, ∃ w, e = .warned w) :
    recordsIn events = [] := by
  unfold recordsIn
  rw [List.filterMap_eq_nil_iff]
  intro e he
  obtain ⟨w, rfl⟩ := h e he
  rfl

theorem recordsIn_canonical (strict : Bool) (value : Json) :
    recordsIn (canonical strict value).events = [] :=
  recordsIn_of_warned fun _ he => warned_of_mem_canonical he

theorem recordsIn_canonicalRequest (strict : Bool) (body : Json) :
    recordsIn (canonicalRequest strict body).events = [] :=
  recordsIn_of_warned fun _ he => warned_of_mem_canonicalRequest he

/-! ## Runs that are logged alike -/

/-- The runs leave the same records behind, and end with the same failure if either fails. -/
structure Run.LogAlike {α β : Type} (run : Run α) (run' : Run β) : Prop where
  records : run.records = run'.records
  failures : ∀ failure, run.outcome = .error failure ↔ run'.outcome = .error failure

namespace Run.LogAlike

variable {α β γ δ : Type} {run : Run α} {run' : Run β}

theorem map (h : run.LogAlike run') (f : α → γ) (f' : β → δ) :
    (⟨run.events, run.outcome.map f⟩ : Run γ).LogAlike
      (⟨run'.events, run'.outcome.map f'⟩ : Run δ) where
  records := h.records
  failures failure := by
    rw [map_eq_error_iff, map_eq_error_iff]
    exact h.failures failure

/-- Runs that are logged alike are so behind any events without a record. -/
theorem after {before before' : List Event} (silent : recordsIn before = [])
    (silent' : recordsIn before' = []) (h : run.LogAlike run') :
    (⟨before ++ run.events, run.outcome⟩ : Run α).LogAlike
      (⟨before' ++ run'.events, run'.outcome⟩ : Run β) where
  records := by
    rw [records_eq, records_eq, recordsIn_append, recordsIn_append, silent, silent']
    exact h.records
  failures := h.failures

/-- The end of one run is logged as the end of the other. -/
theorem record_settle {run run' : Run Json} (h : run.LogAlike run') (path : Text) :
    (Api.settle path run.outcome).record = (Api.settle path run'.outcome).record := by
  cases houtcome : run.outcome with
  | error failure => rw [(h.failures failure).1 houtcome]
  | ok body =>
    cases houtcome' : run'.outcome with
    | error failure =>
      rw [(h.failures failure).2 houtcome'] at houtcome
      cases houtcome
    | ok body' => rfl

end Run.LogAlike

/-- The graphs have as many nodes, and as many edges. -/
structure Graph.SameSize (g g' : Graph) : Prop where
  nodes : g.nodes.length = g'.nodes.length
  edges : g.edges.length = g'.edges.length

/-- The values list as many nodes, and as many edges. -/
structure Json.SameSize (value value' : Json) : Prop where
  nodes : value.nodeItems.length = value'.nodeItems.length
  edges : value.edgeItems.length = value'.edgeItems.length

/-- Values of the same size are accepted as graphs of the same size: nothing is left out. -/
theorem Json.SameSize.graphs {strict : Bool} {value value' : Json} {g g' : Graph}
    (h : value.SameSize value') (accepted : (canonical strict value).outcome = .ok g)
    (accepted' : (canonical strict value').outcome = .ok g') : g.SameSize g' := by
  obtain ⟨describes, -, -⟩ := (outcome_canonical_eq_ok_iff strict value g).1 accepted
  obtain ⟨describes', -, -⟩ := (outcome_canonical_eq_ok_iff strict value' g').1 accepted'
  constructor
  · rw [describes.length_eq.1, describes'.length_eq.1, h.nodes]
  · rw [describes.length_eq.2, describes'.length_eq.2, h.edges]

section

variable {g g' : Graph}

theorem Graph.SameSize.inWords (h : g.SameSize g') :
    Generator.sizeInWords g = Generator.sizeInWords g' := by
  unfold Generator.sizeInWords
  rw [h.nodes, h.edges]

/-! ## Generation by a chat model -/

/-- A request leaves one record behind, whatever comes of it. -/
theorem Generator.records_generate (generator : Generator) (g : Graph) :
    (generator.generate g).records = [generator.startRecord g] := by
  cases htimeout : generator.timeout.isAtMostZero with
  | true =>
    rw [generate_of_expired htimeout]
    rfl
  | false =>
    rw [generate_of_live htimeout]
    rfl

theorem Generator.startRecord_eq {generator generator' : Generator}
    (model : generator.model = generator'.model) (size : g.SameSize g') :
    generator.startRecord g = generator'.startRecord g' := by
  unfold startRecord
  rw [model, size.inWords]

theorem Generator.outcome_generate_eq {generator : Generator}
    (h : generator.service (generator.request g) = generator.service (generator.request g')) :
    (generator.generate g).outcome = (generator.generate g').outcome := by
  cases htimeout : generator.timeout.isAtMostZero with
  | true => rw [generate_of_expired htimeout, generate_of_expired htimeout]
  | false => rw [generate_of_live htimeout, generate_of_live htimeout, h]

/-! ## Backends -/

/-- The backend is the library itself, a chat model that replies the same about both graphs, or one
that knows no graph. -/
inductive Backend.AnswersAlike (g g' : Graph) : Backend → Prop
  | structural (bootstrap : Option Text) : AnswersAlike g g' (.structural bootstrap)
  | chat {generator : Generator}
      (reply : generator.service (generator.request g) = generator.service (generator.request g')) :
      AnswersAlike g g' (.chat generator)
  | fixed (name : Text) (outcome : Except Failure (Option Text)) :
      AnswersAlike g g' (.fixed name outcome)

theorem Backend.write_chat (generator : Generator) (g : Graph) :
    (Backend.chat generator).write g
      = ⟨(generator.generate g).events, (generator.generate g).outcome.map some⟩ := by
  show generator.generate g >>= (fun code => pure (some code)) = _
  cases h : (generator.generate g).outcome with
  | error failure => exact Run.bind_of_error _ h
  | ok code =>
    rw [Run.bind_of_ok _ h]
    show (⟨_ ++ [], _⟩ : Run (Option Text)) = _
    rw [List.append_nil]
    rfl

/-- A backend leaves the same records behind for two graphs that it answers alike, and is judged
alike. The library itself writes different programs, but never fails for a graph with a plan. -/
theorem Backend.AnswersAlike.write {backend : Backend} (h : backend.AnswersAlike g g')
    (size : g.SameSize g') {plan plan' : Plan} (hplan : Plan.ofGraph g = .ok plan)
    (hplan' : Plan.ofGraph g' = .ok plan') :
    recordsIn (backend.write g).events = recordsIn (backend.write g').events ∧
      ∀ failure, (backend.write g).outcome.bind backend.judge = .error failure ↔
        (backend.write g').outcome.bind backend.judge = .error failure := by
  cases h with
  | structural bootstrap =>
    rw [write_structural hplan, write_structural hplan']
    refine ⟨rfl, fun failure => ?_⟩
    have judged : ∀ plan : Plan, (Backend.structural bootstrap).judge (some (plan.source bootstrap))
        ≠ .error failure := by
      intro plan failed
      rw [judge_of_visible (plan.isBlank_source bootstrap)] at failed
      cases failed
    exact iff_of_false (judged plan) (judged plan')
  | @chat generator reply =>
    rw [write_chat, write_chat]
    constructor
    · have records := generator.records_generate g
      have records' := generator.records_generate g'
      rw [Run.records_eq] at records records'
      rw [records, records', Generator.startRecord_eq rfl size]
    · rw [Generator.outcome_generate_eq reply]
      exact fun failure => Iff.rfl
  | fixed name outcome => exact ⟨rfl, fun failure => Iff.rfl⟩

/-! ## The service -/

theorem logAlike_writeProgram {backend : Backend} (h : backend.AnswersAlike g g')
    (size : g.SameSize g') {plan plan' : Plan} (hplan : Plan.ofGraph g = .ok plan)
    (hplan' : Plan.ofGraph g' = .ok plan') :
    (writeProgram backend g).LogAlike (writeProgram backend g') := by
  obtain ⟨records, failures⟩ := h.write size hplan hplan'
  have start : backend.startRecord g = backend.startRecord g' := by
    unfold Backend.startRecord
    rw [size.inWords]
  rw [writeProgram_eq, writeProgram_eq]
  constructor
  · show backend.startRecord g :: recordsIn (backend.write g).events
      = backend.startRecord g' :: recordsIn (backend.write g').events
    rw [start, records]
  · exact failures

end

section

variable {strict : Bool} {value value' : Json} {g g' : Graph} {backend : Backend}

theorem logAlike_writeProgram_of_ok (size : value.SameSize value')
    (accepted : (canonical strict value).outcome = .ok g)
    (accepted' : (canonical strict value').outcome = .ok g') (h : backend.AnswersAlike g g') :
    (writeProgram backend g).LogAlike (writeProgram backend g') := by
  obtain ⟨plan, hplan, -⟩ := exists_plan_of_canonical accepted
  obtain ⟨plan', hplan', -⟩ := exists_plan_of_canonical accepted'
  exact logAlike_writeProgram h (size.graphs accepted accepted') hplan hplan'

theorem logAlike_transpile (size : value.SameSize value')
    (accepted : (canonical strict value).outcome = .ok g)
    (accepted' : (canonical strict value').outcome = .ok g') (h : backend.AnswersAlike g g') :
    (transpile strict backend value).LogAlike (transpile strict backend value') := by
  rw [transpile_eq_of_ok accepted, transpile_eq_of_ok accepted']
  exact (logAlike_writeProgram_of_ok size accepted accepted' h).after
    (recordsIn_canonical strict value) (recordsIn_canonical strict value')

theorem records_transpile_of_ok (h : (canonical strict value).outcome = .ok g) (backend : Backend) :
    (transpile strict backend value).records
      = backend.startRecord g :: (backend.write g).records := by
  rw [transpile_eq_of_ok h, writeProgram_eq, Run.records_eq, recordsIn_append, recordsIn_canonical]
  rfl

theorem records_transpile_of_error {failure : Failure}
    (h : (canonical strict value).outcome = .error failure) (backend : Backend) :
    (transpile strict backend value).records = [] := by
  rw [transpile_eq_of_error h]
  exact recordsIn_canonical strict value

end

/-! ## Requests -/

namespace Api.App

variable {app : App} {request request' : Request} {payload payload' : Json} {g g' : Graph}

/-- A deployment leaves the same records behind for the two graphs, also if its backend cannot be
built. -/
theorem logAlike_perform (size : payload.bodyGraph.SameSize payload'.bodyGraph)
    (accepted : (canonicalRequest false payload).outcome = .ok g)
    (accepted' : (canonicalRequest false payload').outcome = .ok g')
    (h : ∀ backend, app.backendFor = .ok backend → backend.AnswersAlike g g') :
    (app.perform .generate payload).LogAlike (app.perform .generate payload') := by
  have silent := recordsIn_canonicalRequest false payload
  have silent' := recordsIn_canonicalRequest false payload'
  cases hbackend : app.backendFor with
  | error failure =>
    rw [perform_generate_of_misconfigured accepted hbackend,
      perform_generate_of_misconfigured accepted' hbackend]
    exact ⟨silent.trans silent'.symm, fun failure => Iff.rfl⟩
  | ok backend =>
    have value := canonicalRequest_eq_of_ok accepted
    have value' := canonicalRequest_eq_of_ok accepted'
    have written := logAlike_writeProgram_of_ok size (value ▸ accepted) (value' ▸ accepted')
      (h backend hbackend)
    rw [perform_generate_of_ok accepted hbackend, perform_generate_of_ok accepted' hbackend]
    exact (written.map codeBody codeBody).after silent silent'

/-- The records of a request are those of its run, and one about its end if that calls for one. -/
theorem recordsIn_respond (h : readBody request = .ok payload) :
    recordsIn (app.respond (request.postedTo .generate)).events
      = (app.perform .generate payload).records
        ++ (settle Route.generate.path (app.perform .generate payload).outcome).record.toList := by
  have settled := settles_of_body (Or.inr rfl) h (rfl : app.perform .generate payload = _)
  have last : ∀ record : Option Record,
      recordsIn (record.map Event.logged).toList = record.toList := by
    intro record
    cases record <;> rfl
  rw [settled.events, recordsIn_append, last]
  rfl

theorem recordsIn_respond_eq (h : readBody request = .ok payload)
    (h' : readBody request' = .ok payload')
    (alike : (app.perform .generate payload).LogAlike (app.perform .generate payload')) :
    recordsIn (app.respond (request.postedTo .generate)).events
      = recordsIn (app.respond (request'.postedTo .generate)).events := by
  rw [recordsIn_respond h, recordsIn_respond h', alike.records, alike.record_settle]

theorem recordsIn_respond_of_rejected {r : Rejection} (h : readBody request = .ok payload)
    (rejected : (canonicalRequest false payload).outcome = .error (.rejected r)) :
    recordsIn (app.respond (request.postedTo .generate)).events = [] := by
  rw [recordsIn_respond h, perform_generate_of_error rejected, Run.records_eq,
    recordsIn_canonicalRequest]
  rfl

end Api.App

/-! ## All records -/

/-- The service writes one record, before the backend does, and a chat model writes one. These records,
and the one about a request that failed, tell no more of an accepted graph than how many nodes and
edges were listed; and of a rejected graph there are none. What fails for one of two graphs of a size
fails for the other with the same failure, so that nothing is told by a record that carries it. -/
theorem records_tell_size :
    (∀ (strict : Bool) (backend : Backend) (value : Json) (g : Graph),
      (canonical strict value).outcome = .ok g → (transpile strict backend value).records
        = backend.startRecord g :: (backend.write g).records) ∧
    (∀ (generator : Generator) (g : Graph),
      (generator.generate g).records = [generator.startRecord g]) ∧
    (∀ (strict : Bool) (backend : Backend) (value value' : Json) (g g' : Graph),
      value.SameSize value' → (canonical strict value).outcome = .ok g →
      (canonical strict value').outcome = .ok g' → backend.AnswersAlike g g' →
      (transpile strict backend value).LogAlike (transpile strict backend value')) ∧
    (∀ (app : Api.App) (request request' : Api.Request) (payload payload' : Json) (g g' : Graph),
      request.DeclaresJson → Api.BodyHolds request.body payload →
      request'.DeclaresJson → Api.BodyHolds request'.body payload' →
      payload.bodyGraph.SameSize payload'.bodyGraph →
      (canonicalRequest false payload).outcome = .ok g →
      (canonicalRequest false payload').outcome = .ok g' →
      (∀ backend, app.backendFor = .ok backend → backend.AnswersAlike g g') →
      recordsIn (app.respond (request.postedTo .generate)).events
          = recordsIn (app.respond (request'.postedTo .generate)).events ∧
        (app.perform .generate payload).LogAlike (app.perform .generate payload')) ∧
    (∀ (generator generator' : Generator) (g g' : Graph), generator.model = generator'.model →
      g.SameSize g' → (generator.generate g).records = (generator'.generate g').records) ∧
    (∀ (strict : Bool) (backend : Backend) (value : Json) (r : Rejection),
      (canonical strict value).outcome = .error (.rejected r) →
      (transpile strict backend value).records = []) ∧
    ∀ (app : Api.App) (request : Api.Request) (payload : Json) (r : Rejection),
      request.DeclaresJson → Api.BodyHolds request.body payload →
      (canonicalRequest false payload).outcome = .error (.rejected r) →
      recordsIn (app.respond (request.postedTo .generate)).events = [] := by
  refine ⟨?written, Generator.records_generate, ?transpiled, ?requested, ?generated, ?rejected,
    ?refused⟩
  case written =>
    intro strict backend value g accepted
    exact records_transpile_of_ok accepted backend
  case transpiled =>
    intro strict backend value value' g g' size accepted accepted' alike
    exact logAlike_transpile size accepted accepted' alike
  case requested =>
    intro app request request' payload payload' g g' declared holds declared' holds' size accepted
      accepted' alike
    have performed := Api.App.logAlike_perform size accepted accepted' alike
    have read := Api.readBody_of_holds declared holds
    have read' := Api.readBody_of_holds declared' holds'
    exact ⟨Api.App.recordsIn_respond_eq read read' performed, performed⟩
  case generated =>
    intro generator generator' g g' model size
    rw [generator.records_generate, generator'.records_generate, Generator.startRecord_eq model size]
  case rejected =>
    intro strict backend value r rejected
    exact records_transpile_of_error rejected backend
  case refused =>
    intro app request payload r declared holds rejected
    exact Api.App.recordsIn_respond_of_rejected (Api.readBody_of_holds declared holds) rejected

/-- A value that lists as many nodes and edges as `rawConversation` and has nothing else in common
with it. -/
def rawMonologue : Json :=
  .object [
    Json.field "nodes" (.array (["one", "two", "three", "four"].map fun id =>
      .object [Json.field "id" (.text id.toList), Json.field "code" (.text "key = 4711".toList)])),
    Json.field "edges" (.array (["one", "two", "three", "four"].map fun id =>
      .object [Json.field "source" (.text "START".toList), Json.field "target" (.text id.toList)]))]

theorem records_tell_size_conversation :
    rawConversation.SameSize rawMonologue ∧
      (∃ g, (canonical false rawMonologue).outcome = .ok g) ∧
      (transpile false (.fixed "mute".toList (.ok none)) rawConversation).records
        = (transpile false (.fixed "mute".toList (.ok none)) rawMonologue).records := by
  have size : rawConversation.SameSize rawMonologue := ⟨rfl, rfl⟩
  have accepted : (canonical false rawMonologue).outcome.toOption.isSome = true := by
    decide +kernel
  obtain ⟨g, hg⟩ := Option.isSome_iff_exists.1 accepted
  have monologue := eq_ok_of_toOption hg
  obtain ⟨-, -, transpiled, -⟩ := records_tell_size
  have alike := transpiled false (.fixed "mute".toList (.ok none)) _ _ _ _ size
    outcome_canonical_rawConversation monologue (.fixed _ _)
  exact ⟨size, ⟨g, monologue⟩, alike.records⟩

end GraphScribe
