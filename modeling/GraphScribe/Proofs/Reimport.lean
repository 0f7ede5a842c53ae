import GraphScribe.Proofs.Api.Posted
import GraphScribe.Proofs.Command.Reports

/-!
# Exported graphs

A canonical graph that the command has printed, or that a request was answered with, stands for the
file or the request it came from: handed in again it is accepted as the same graph, with the same
warnings, and gives the same program (`canonical_reimports`).
-/

namespace GraphScribe

open Api Command

/-! ## The command -/

/-- Two runs of the command end alike, apart from their files. -/
structure Command.Finished.Alike (a b : Finished) : Prop where
  exit : a.exit = b.exit
  stdout : a.stdout = b.stdout
  stderr : a.stderr = b.stderr
  events : a.events = b.events

/-- A printed text tells the graph of a file, and a file with the text does what the file did. -/
structure FileReimports (strict : Bool) (octets : List UInt8) (t : Text) : Prop where
  tells : ∃ g, (canonicalFile strict octets).outcome = .ok g ∧
    Json.readDocument (rawOf t) = .ok g.toJson ∧ Graph.ofJson g.toJson = .ok g
  exports : ∀ world arguments world' arguments', Exports strict world arguments octets →
    Exports strict world' arguments' (Utf8.encode t) →
    (run world' arguments').stdout = String.ofList t ∧
      (run world' arguments').Alike (run world arguments)
  prints : ∀ world arguments world' arguments', Prints strict world arguments octets →
    Prints strict world' arguments' (Utf8.encode t) →
    (run world arguments).exit = .ok 0 ∧ (run world' arguments').Alike (run world arguments)

section

variable {strict : Bool} {octets : List UInt8} {g : Graph}

/-- A run that ends well has accepted a graph. -/
theorem exists_graph_of_exit {world : World} {arguments : List Text}
    (exports : Exports strict world arguments octets) (h : (run world arguments).exit = .ok 0) :
    ∃ g, (canonicalFile strict octets).outcome = .ok g := by
  obtain ⟨options, settings, opens, rfl, -⟩ := exports
  rw [opens.run_eq] at h
  unfold runFile at h
  dsimp only at h
  split at h
  · next g accepted => exact ⟨g, accepted⟩
  · cases h
  · cases h
  · cases h

theorem fileReimports_printed (accepted : (canonicalFile strict octets).outcome = .ok g) :
    FileReimports strict octets g.printed := by
  have same := canonicalFile_printed_eq accepted
  have again : (canonicalFile strict (Utf8.encode g.printed)).outcome = .ok g := by
    rw [same]
    exact accepted
  constructor
  case tells => exact ⟨g, accepted, g.readDocument_printed, g.ofJson_toJson⟩
  case exports =>
    intro world arguments world' arguments' first second
    rw [first.run_of_ok accepted, second.run_of_ok again, same]
    exact ⟨rfl, rfl, rfl, rfl, rfl⟩
  case prints =>
    intro world arguments world' arguments' first second
    obtain ⟨value, hvalue⟩ := exists_canonicalFile_eq accepted
    rw [hvalue] at accepted
    obtain ⟨plan, hplan, -⟩ := exists_plan_of_canonical accepted
    rw [← hvalue] at accepted
    rw [first.run_of_ok accepted hplan, second.run_of_ok again hplan, same]
    exact ⟨rfl, rfl, rfl, rfl, rfl⟩

end

/-! ## The HTTP interface -/

/-- Two answers are alike, apart from the headers for other origins. -/
structure Api.Answer.Alike (a b : Answer) : Prop where
  status : a.status = b.status
  body : a.body = b.body
  events : a.events = b.events

/-- The body that a request was answered with can be posted in its place. -/
structure BodyReimports (app : App) (request : Request) (answered : Json) : Prop where
  sendable : BodyHolds (Utf8.encode (RawText.text answered.compact)) answered
  validates : ∀ request' : Request, request'.DeclaresJson → BodyHolds request'.body answered →
    (app.respond (request'.postedTo .validate)).body = answered ∧
      (app.respond (request'.postedTo .validate)).Alike (app.respond (request.postedTo .validate))
  generates : ∀ request' : Request, request'.DeclaresJson → BodyHolds request'.body answered →
    (app.respond (request'.postedTo .generate)).Alike (app.respond (request.postedTo .generate))

section

variable {app : App} {request request' : Request} {payload payload' : Json} {g : Graph}

theorem status_settleFailure_ne (path : Text) (failure : Failure) :
    (settleFailure path failure).status ≠ 200 := by
  have status : (settleFailure path failure).status = 400 ∨
      (settleFailure path failure).status = 500 := by
    cases failure with
    | rejected r => exact Or.inl rfl
    | _ => exact Or.inr rfl
  omega

theorem status_settleBodyFault_ne (path : Text) (fault : BodyFault) :
    (settleBodyFault path fault).status ≠ 200 := by
  cases fault with
  | mediaType => exact Nat.ne_of_gt (by decide : 200 < 415)
  | malformed => exact Nat.ne_of_gt (by decide : 200 < 400)
  | failed failure => exact status_settleFailure_ne path failure

/-- A request that is answered well has had its graph accepted. -/
theorem exists_graph_of_status (h : (app.respond (request.postedTo .validate)).status = 200) :
    ∃ payload g, readBody request = .ok payload ∧
      (canonicalRequest false payload).outcome = .ok g := by
  cases hread : readBody request with
  | error fault =>
    rw [(app.settles_of_fault (Or.inl rfl) hread).answers.1] at h
    exact absurd h (status_settleBodyFault_ne _ fault)
  | ok payload =>
    cases hrun : (canonicalRequest false payload).outcome with
    | error failure =>
      have settled := App.settles_of_body (Or.inl rfl) hread (app.perform_validate_of_error hrun)
      rw [settled.answers.1] at h
      exact absurd h (status_settleFailure_ne _ failure)
    | ok g => exact ⟨payload, g, rfl, hrun⟩

/-- What a route does with a body depends on the run that makes its graph canonical alone. -/
theorem perform_eq_of_canonicalRequest_eq {route : Route} (takes : route.TakesBody)
    (same : canonicalRequest false payload' = canonicalRequest false payload) :
    app.perform route payload' = app.perform route payload := by
  rcases takes with rfl | rfl
  · unfold App.perform
    rw [same]
  · unfold App.perform
    rw [same]

theorem alike_of_canonicalRequest_eq {route : Route} (takes : route.TakesBody)
    (hread' : readBody request' = .ok payload') (hread : readBody request = .ok payload)
    (same : canonicalRequest false payload' = canonicalRequest false payload) :
    (app.respond (request'.postedTo route)).Alike (app.respond (request.postedTo route)) := by
  have performed : app.perform route payload' = app.perform route payload :=
    perform_eq_of_canonicalRequest_eq takes same
  have settled' := App.settles_of_body takes hread' performed
  have settled := app.settles_of_body takes hread rfl
  exact ⟨settled'.answers.1.trans settled.answers.1.symm,
    settled'.answers.2.trans settled.answers.2.symm, settled'.events.trans settled.events.symm⟩

theorem answers_validate (hread : readBody request = .ok payload)
    (accepted : (canonicalRequest false payload).outcome = .ok g) :
    app.Answers request .validate 200 (graphBody g) :=
  (App.settles_of_body (Or.inl rfl) hread (app.perform_validate_of_ok accepted)).answers

theorem bodyReimports_graphBody (hread : readBody request = .ok payload)
    (accepted : (canonicalRequest false payload).outcome = .ok g) :
    BodyReimports app request (graphBody g) := by
  have same := canonicalRequest_graphBody accepted
  constructor
  case sendable => exact bodyHolds_sentGraph g
  case validates =>
    intro request' declared holds
    have alike : (app.respond (request'.postedTo .validate)).Alike
        (app.respond (request.postedTo .validate)) :=
      alike_of_canonicalRequest_eq (Or.inl rfl) (readBody_of_holds declared holds) hread same
    refine ⟨?_, alike⟩
    rw [alike.body]
    exact (answers_validate hread accepted).2
  case generates =>
    intro request' declared holds
    exact alike_of_canonicalRequest_eq (Or.inr rfl) (readBody_of_holds declared holds) hread same

end

/-- A canonical graph that was printed or answered is handed in again without loss: it is accepted as
the graph it is, prints or answers itself with the same warnings, and gives the same program. -/
theorem canonical_reimports :
    (∀ strict world arguments octets, Exports strict world arguments octets →
      (run world arguments).exit = .ok 0 →
      FileReimports strict octets (run world arguments).stdout.toList) ∧
    ∀ (app : App) (request : Request),
      (app.respond (request.postedTo .validate)).status = 200 →
      BodyReimports app request (app.respond (request.postedTo .validate)).body := by
  constructor
  · intro strict world arguments octets exports hexit
    obtain ⟨g, accepted⟩ := exists_graph_of_exit exports hexit
    rw [exports.run_of_ok accepted, String.toList_ofList]
    exact fileReimports_printed accepted
  · intro app request hstatus
    obtain ⟨payload, g, hread, accepted⟩ := exists_graph_of_status hstatus
    rw [(answers_validate hread accepted).2]
    exact bodyReimports_graphBody hread accepted

/-- A file with a request body whose graph needs cleaning. -/
def spacedFile : List UInt8 :=
  Utf8.encode ("\x7b\"graphJSON\": \x7b\"nodes\": [\x7b\"id\": \" a\\t\", ".toList
    ++ "\"code\": \"\\u0007x\\r\"\x7d]\x7d\x7d\r\n".toList)

theorem accepted_spacedFile : (canonicalFile false spacedFile).outcome
    = .ok ⟨[⟨"a".toList, "NODE".toList, none, some "x\r".toList⟩], []⟩ :=
  eq_ok_of_toOption (by decide +kernel)

theorem canonical_reimports_spacedFile :
    Exports false (worldWith spacedFile) ["--canonical".toList, "graph.json".toList] spacedFile ∧
      (run (worldWith spacedFile) ["--canonical".toList, "graph.json".toList]).exit = .ok 0 ∧
      FileReimports false spacedFile
        (run (worldWith spacedFile) ["--canonical".toList, "graph.json".toList]).stdout.toList ∧
      (App.plainDeployment.respond (conversationRequest.postedTo .validate)).status = 200 ∧
      BodyReimports App.plainDeployment conversationRequest
        (App.plainDeployment.respond (conversationRequest.postedTo .validate)).body := by
  have exports := exports_worldWith spacedFile
  have hexit : (run (worldWith spacedFile) ["--canonical".toList, "graph.json".toList]).exit
      = .ok 0 := by
    rw [exports.run_of_ok accepted_spacedFile]
  have hread : readBody conversationRequest = .ok (graphBody conversation) :=
    readBody_of_holds conversationRequest_declaresJson (bodyHolds_sentGraph conversation)
  have hstatus : (App.plainDeployment.respond (conversationRequest.postedTo .validate)).status
      = 200 := (answers_validate hread accepted_conversation).1
  exact ⟨exports, hexit, canonical_reimports.1 _ _ _ _ exports hexit, hstatus,
    canonical_reimports.2 _ _ hstatus⟩

end GraphScribe
