import GraphScribe.Proofs.Api.Posted
import GraphScribe.Proofs.Graph.Refusal

/-!
# How a request to generate ends

Main statement (`App.generate_cases`): a request is turned away before any backend is asked, by either
route in the same words, or its graph is handed to the backend, once, and the answer is decided by
what the backend makes of it.
-/

namespace GraphScribe.Api

/-- Both routes answer the request with the same status and message, and nothing happens on the way
to it but warnings. -/
structure App.TurnsAway (app : App) (request : Request) (status : Nat) (message : String) : Prop where
  generate : app.Answers request .generate status (errorBody message)
  validate : app.Answers request .validate status (errorBody message)
  unasked : ∀ e ∈ (app.respond (request.postedTo .generate)).events, ∃ w, e = .warned w

/-- The backend is asked for the graph, at one point of the run, and all that it does follows there.
The answer is its program, or the words of a rejection it ends with, or else the same for every other
failure and for no program. -/
structure App.Generates (app : App) (backend : Backend) (request : Request) (g : Graph) : Prop where
  asked : ∃ before after,
    (app.respond (request.postedTo .generate)).events
      = before ++ .asked g :: (backend.write g).events ++ after ∧
    (∀ g', .asked g' ∉ before) ∧ ∀ g', .asked g' ∉ after
  program : ∀ code, (backend.write g).outcome = .ok (some code) → Text.isBlank code = false →
    app.Answers request .generate 200 (codeBody code)
  blank : ∀ written, (backend.write g).outcome = .ok written →
    Text.isBlank (written.getD []) = true →
    app.Answers request .generate 500 (errorBody "Failed to generate code")
  rejected : ∀ r, (backend.write g).outcome = .error (.rejected r) →
    app.Answers request .generate 400 (errorBody r.message)
  failed : ∀ failure, (backend.write g).outcome = .error failure → (∀ r, failure ≠ .rejected r) →
    app.Answers request .generate 500 (errorBody "Failed to generate code")

namespace App

variable {app : App} {request : Request} {payload : Json}

/-! ## Turned away -/

theorem turnsAway_of_fault {fault : BodyFault} {status : Nat} {message : String}
    (h : readBody request = .error fault)
    (settled : ∀ path, settleBodyFault path fault = ⟨status, errorBody message, none, none⟩) :
    app.TurnsAway request status message := by
  have generate := app.settles_of_fault (Or.inr rfl) h
  have validate := app.settles_of_fault (Or.inl rfl) h
  rw [settled] at generate validate
  have silent : (app.respond (request.postedTo .generate)).events = [] := generate.events
  refine ⟨generate.answers, validate.answers, ?_⟩
  rw [silent]
  exact fun e he => absurd he List.not_mem_nil

theorem turnsAway_of_rejected {r : Rejection} (h : readBody request = .ok payload)
    (rejected : (canonicalRequest false payload).outcome = .error (.rejected r)) :
    app.TurnsAway request 400 r.message := by
  have generate := settles_of_body (Or.inr rfl) h (app.perform_generate_of_error rejected)
  have validate := settles_of_body (Or.inl rfl) h (app.perform_validate_of_error rejected)
  have warned : (app.respond (request.postedTo .generate)).events
      = (canonicalRequest false payload).events := by
    rw [generate.events]
    exact List.append_nil _
  refine ⟨generate.answers, validate.answers, ?_⟩
  rw [warned]
  exact fun e he => warned_of_mem_canonicalRequest he

/-! ## Generated -/

/-- How a request is answered whose graph the backend was asked for. -/
def settledCode (backend : Backend) (g : Graph) : Settled :=
  settle Route.generate.path (((backend.write g).outcome.bind backend.judge).map codeBody)

theorem settles_generate {backend : Backend} {g : Graph} (h : readBody request = .ok payload)
    (accepted : (canonicalRequest false payload).outcome = .ok g)
    (hbackend : app.backendFor = .ok backend) :
    app.Settles request .generate
      (((canonicalRequest false payload).events ++ [.logged (backend.startRecord g)])
        ++ .asked g :: (backend.write g).events)
      (settledCode backend g) := by
  have settled := settles_of_body (Or.inr rfl) h (perform_generate_of_ok accepted hbackend)
  rw [writeProgram_eq] at settled
  rw [List.append_assoc]
  exact settled

section

variable {backend : Backend} {g : Graph}

theorem settledCode_of_visible {code : Text} (h : (backend.write g).outcome = .ok (some code))
    (visible : Text.isBlank code = false) :
    settledCode backend g = ⟨200, codeBody code, none, none⟩ := by
  have judged : (backend.write g).outcome.bind backend.judge = .ok code := by
    rw [h]
    exact Backend.judge_of_visible visible
  unfold settledCode
  rw [judged]
  rfl

/-- A failure that is no rejection is answered in the same words whatever it is. -/
theorem settledCode_of_failure {failure : Failure}
    (h : (backend.write g).outcome.bind backend.judge = .error failure)
    (other : ∀ r, failure ≠ .rejected r) :
    (settledCode backend g).status = 500 ∧
      (settledCode backend g).body = errorBody "Failed to generate code" := by
  unfold settledCode
  rw [h]
  cases failure with
  | rejected r => exact absurd rfl (other r)
  | _ => exact ⟨rfl, rfl⟩

theorem settledCode_of_rejected {r : Rejection}
    (h : (backend.write g).outcome = .error (.rejected r)) :
    settledCode backend g = ⟨400, errorBody r.message, none, none⟩ := by
  unfold settledCode
  rw [h]
  rfl

end

theorem generates {backend : Backend} {g : Graph} (h : readBody request = .ok payload)
    (accepted : (canonicalRequest false payload).outcome = .ok g)
    (hbackend : app.backendFor = .ok backend) : app.Generates backend request g := by
  have settled := settles_generate h accepted hbackend
  have failed : ∀ failure, (backend.write g).outcome.bind backend.judge = .error failure →
      (∀ r, failure ≠ .rejected r) →
      app.Answers request .generate 500 (errorBody "Failed to generate code") := by
    intro failure hfailure other
    obtain ⟨hstatus, hbody⟩ := settledCode_of_failure hfailure other
    rw [← hstatus, ← hbody]
    exact settled.answers
  constructor
  case asked =>
    refine ⟨_, _, settled.events, ?_, ?_⟩
    · exact asked_not_mem (fun _ => warned_of_mem_canonicalRequest) _
    · -- after the backend there is a record at most
      intro g' hmem
      rw [Option.mem_toList, Option.map_eq_some_iff] at hmem
      obtain ⟨record, -, hrecord⟩ := hmem
      cases hrecord
  case program =>
    intro code hcode visible
    have answers := settled.answers
    rw [settledCode_of_visible hcode visible] at answers
    exact answers
  case blank =>
    intro written hwritten blank
    apply failed (.generation (.noCode backend.name))
    · rw [hwritten]
      exact Backend.judge_of_blank blank
    · exact fun r heq => Failure.noConfusion heq
  case rejected =>
    intro r hr
    have answers := settled.answers
    rw [settledCode_of_rejected hr] at answers
    exact answers
  case failed =>
    intro failure hfailure other
    apply failed failure
    · rw [hfailure]
      rfl
    · exact other

/-- A deployment with a backend that writes the same for every graph. -/
def scripted (written : Option Text) : App where
  settings := {
    strategy := .llm
    apiKey := none
    model := defaultModel
    timeout := Binary64.ofNat 60
    maxRetries := 2
    logLevel := "INFO".toList
    corsOrigins := [['*']] }
  backend := some (.fixed "scripted".toList (.ok written))
  service := fun _ => .timedOut

end App

end GraphScribe.Api
