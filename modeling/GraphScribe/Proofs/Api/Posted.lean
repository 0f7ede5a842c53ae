import GraphScribe.Api.Basic
import GraphScribe.Proofs.Graph.Stored
import GraphScribe.Proofs.Graph.Strict
import GraphScribe.Proofs.Service

/-!
# Requests that are posted

A request that is posted to one of the two routes with a body is answered by what its body is read as,
and by the run of the route on it: `App.settles_of_fault` where the body is not looked at, and
`App.settles_of_body` where it is. Both routes fail alike as long as the graph is not accepted
(`App.perform_validate_of_error`, `App.perform_generate_of_error`).
-/

namespace GraphScribe.Api

/-- A route whose requests have a body. -/
def Route.TakesBody (route : Route) : Prop := route = .validate ∨ route = .generate

namespace Request

variable {request : Request}

/-- The same headers and body, posted to some route. -/
def postedTo (request : Request) (route : Route) : Request :=
  { request with method := route.method, path := route.path }

/-- The media type of the body, in small letters; a request need not name one. -/
def mediaType (request : Request) : Text :=
  ((request.header? "content-type").getD []).map Char.toLower

/-- The request declares that its body is JSON. -/
def DeclaresJson (request : Request) : Prop := "application/json".toList <:+: request.mediaType

end Request

/-! ## Bodies -/

/-- The octets of a body hold a JSON value. -/
def BodyHolds (octets : List UInt8) (payload : Json) : Prop :=
  ∃ text, decodeBody? octets = some text ∧ Json.read text = .ok payload

/-- The octets of a body cannot be decoded, or are no JSON text. -/
def BodyMalformed (octets : List UInt8) : Prop :=
  decodeBody? octets = none ∨ ∃ text wanted position line column,
    decodeBody? octets = some text ∧
      Json.read text = .error (.departure wanted position line column)

/-- A body in UTF-8 whose first two characters are plain holds the value that it is written for. -/
theorem bodyHolds_encode {payload : Json} {c d : Char} {t : Text}
    (textual : Json.Textual Json.nestingLimit payload) (written : payload.compact = rawOf (c :: d :: t))
    (hc : 0 < c.toNat ∧ c.toNat < 0x80) (hd : 0 < d.toNat ∧ d.toNat < 0x80) :
    BodyHolds (Utf8.encode (c :: d :: t)) payload := by
  refine ⟨payload.compact, ?_, Json.read_compact textual⟩
  rw [decodeBody?_encode hc hd, written]

section

variable {request : Request}

theorem readBody_of_not_declaresJson (h : ¬ request.DeclaresJson) :
    readBody request = .error .mediaType := by
  have absent : contains "application/json".toList request.mediaType = false := by
    rw [← Bool.not_eq_true, contains_iff_infix]
    exact h
  show (if !contains "application/json".toList request.mediaType then _ else _) = _
  rw [absent]
  rfl

theorem readBody_of_declaresJson (h : request.DeclaresJson) : readBody request =
    match decodeBody? request.body with
    | none => .error .malformed
    | some text =>
      match Json.read text with
      | .ok value => .ok value
      | .error (.departure ..) => .error .malformed
      | .error fault => .error (.failed (.unreadable fault)) := by
  have present : contains "application/json".toList request.mediaType = true := by
    have found := contains_iff_infix "application/json".toList request.mediaType
    exact found.2 h
  show (if !contains "application/json".toList request.mediaType then _ else _) = _
  rw [present]
  rfl

theorem readBody_of_malformed (declared : request.DeclaresJson) (h : BodyMalformed request.body) :
    readBody request = .error .malformed := by
  rw [readBody_of_declaresJson declared]
  rcases h with h | ⟨text, wanted, position, line, column, htext, h⟩
  · rw [h]
  · rw [htext]
    dsimp only
    rw [h]

theorem readBody_of_holds (declared : request.DeclaresJson) {payload : Json}
    (h : BodyHolds request.body payload) : readBody request = .ok payload := by
  obtain ⟨text, htext, h⟩ := h
  rw [readBody_of_declaresJson declared, htext]
  dsimp only
  rw [h]

end

/-! ## The bodies of answers -/

/-- What is answered with a canonical graph. -/
def graphBody (g : Graph) : Json := g.toJson.asBody

/-- What is answered with a program. -/
def codeBody (code : Text) : Json := .object [Json.field "code" (.text code)]

theorem plain_graphBody (g : Graph) : (graphBody g).Plain := by
  intro t ht
  rw [graphBody, Json.asBody, Json.texts, Json.textsOfMembers, Json.textsOfMembers, List.append_nil] at ht
  rcases List.mem_cons.1 ht with rfl | ht
  · exact RawText.plain_rawOf _
  · exact g.plain_toJson t ht

theorem textual_graphBody (g : Graph) : Json.Textual Json.nestingLimit (graphBody g) := by
  apply Json.Textual.object
  intro m hm
  rw [List.mem_singleton.1 hm]
  exact g.textual_toJson 946

/-- The compact form of a body with a graph. -/
def sentGraph (g : Graph) : Text := RawText.text (graphBody g).compact

/-- A graph that was answered can be sent back: the compact form of the answer is a body that holds
it. -/
theorem bodyHolds_sentGraph (g : Graph) : BodyHolds (Utf8.encode (sentGraph g)) (graphBody g) := by
  have plain : RawText.Plain (graphBody g).compact :=
    (Json.plain_writeAt_iff _ _ _).2 (plain_graphBody g)
  obtain ⟨t, ht⟩ := (RawText.plain_iff_exists_rawOf _).1 plain
  have written : (graphBody g).compact = rawOf (sentGraph g) := by
    unfold sentGraph
    rw [ht, RawText.text_rawOf]
  -- a body with a graph starts with a brace and a quote
  obtain ⟨rest, hrest⟩ : ∃ rest, (graphBody g).compact = .scalar '\x7b' :: .scalar '\x22' :: rest :=
    ⟨_, rfl⟩
  have sent : sentGraph g = '\x7b' :: '\x22' :: RawText.text rest := by
    unfold sentGraph
    rw [hrest]
    rfl
  rw [sent] at written ⊢
  exact bodyHolds_encode (textual_graphBody g) written (by decide) (by decide)

/-- The graph in the body that was answered is made canonical by the run that it came from. -/
theorem canonicalRequest_graphBody {payload : Json} {g : Graph}
    (h : (canonicalRequest false payload).outcome = .ok g) :
    canonicalRequest false (graphBody g) = canonicalRequest false payload := by
  have run := canonicalRequest_eq_of_ok h
  rw [run] at h ⊢
  rw [graphBody, canonicalRequest_asBody, canonical_toJson_eq h]

/-! ## Answers -/

namespace App

/-- What a client sees of the answer to a request that is posted to a route. -/
def Answers (app : App) (request : Request) (route : Route) (status : Nat) (body : Json) : Prop :=
  (app.respond (request.postedTo route)).status = status ∧
    (app.respond (request.postedTo route)).body = body

/-- The answer to a request that is posted to a route is settled so, after these events. -/
structure Settles (app : App) (request : Request) (route : Route) (events : List Event)
    (settled : Settled) : Prop where
  answers : app.Answers request route settled.status settled.body
  events : (app.respond (request.postedTo route)).events
    = events ++ (settled.record.map Event.logged).toList

variable {app : App} {request : Request} {route : Route}

theorem dispatch_postedTo (app : App) (request : Request) (route : Route) :
    app.dispatch (request.postedTo route) = app.serve route (request.postedTo route) := by
  unfold dispatch
  rw [show (request.postedTo route).path = route.path from rfl, route.ofPath?_path]
  exact if_pos rfl

theorem settles_of_serve {events : List Event} {settled : Settled}
    (h : app.serve route (request.postedTo route) = (events, settled)) :
    app.Settles request route events settled := by
  have dispatched : app.dispatch (request.postedTo route) = (events, settled) := by
    rw [dispatch_postedTo, h]
  have answers : app.Answers request route settled.status settled.body := by
    unfold Answers respond respondBehind
    rw [dispatched]
    exact ⟨rfl, rfl⟩
  refine ⟨answers, ?_⟩
  unfold respond respondBehind
  rw [dispatched]

theorem settles_of_fault (takes : route.TakesBody) {fault : BodyFault}
    (h : readBody request = .error fault) :
    app.Settles request route [] (settleBodyFault route.path fault) := by
  have same : readBody (request.postedTo route) = .error fault := h
  apply settles_of_serve
  unfold serve
  rcases takes with rfl | rfl
  · rw [same]
  · rw [same]

theorem settles_of_body (takes : route.TakesBody) {payload : Json} {run : Run Json}
    (h : readBody request = .ok payload) (hrun : app.perform route payload = run) :
    app.Settles request route run.events (settle route.path run.outcome) := by
  have same : readBody (request.postedTo route) = .ok payload := h
  apply settles_of_serve
  rw [← hrun]
  unfold serve
  rcases takes with rfl | rfl
  · rw [same]
  · rw [same]

end App

/-! ## The two routes -/

namespace App

variable {app : App} {payload : Json} {g : Graph} {failure : Failure}

theorem perform_validate_of_ok (h : (canonicalRequest false payload).outcome = .ok g) :
    app.perform .validate payload
      = ⟨(canonicalRequest false payload).events, .ok (graphBody g)⟩ := by
  show canonicalRequest false payload >>= _ = _
  rw [Run.bind_of_ok _ h]
  show (⟨_ ++ [], _⟩ : Run Json) = _
  rw [List.append_nil]
  rfl

theorem perform_validate_of_error (h : (canonicalRequest false payload).outcome = .error failure) :
    app.perform .validate payload = ⟨(canonicalRequest false payload).events, .error failure⟩ :=
  Run.bind_of_error _ h

theorem perform_generate_of_ok (h : (canonicalRequest false payload).outcome = .ok g)
    {backend : Backend} (hbackend : app.backendFor = .ok backend) :
    app.perform .generate payload
      = ⟨(canonicalRequest false payload).events ++ (writeProgram backend g).events,
          (writeProgram backend g).outcome.map codeBody⟩ := by
  show canonicalRequest false payload >>= (fun g => Run.ofExcept app.backendFor >>= fun backend =>
    writeProgram backend g >>= fun code => pure (codeBody code)) = _
  rw [Run.bind_of_ok _ h, hbackend, Run.bind_of_ok _ (rfl : (Run.ofExcept (.ok backend)).outcome = _)]
  cases hcode : (writeProgram backend g).outcome with
  | error failure =>
    rw [Run.bind_of_error _ hcode]
    rfl
  | ok code =>
    rw [Run.bind_of_ok _ hcode]
    show (⟨_ ++ ([] ++ ((writeProgram backend g).events ++ [])), _⟩ : Run Json) = _
    rw [List.append_nil, List.nil_append]
    rfl

/-- A deployment whose backend cannot be built fails only once the graph is accepted. -/
theorem perform_generate_of_misconfigured (h : (canonicalRequest false payload).outcome = .ok g)
    (hbackend : app.backendFor = .error failure) :
    app.perform .generate payload = ⟨(canonicalRequest false payload).events, .error failure⟩ := by
  show canonicalRequest false payload >>= (fun g => Run.ofExcept app.backendFor >>= fun backend =>
    writeProgram backend g >>= fun code => pure (codeBody code)) = _
  rw [Run.bind_of_ok _ h, hbackend,
    Run.bind_of_error _ (rfl : (Run.ofExcept (.error failure)).outcome = _)]
  show (⟨_ ++ [], _⟩ : Run Json) = _
  rw [List.append_nil]

theorem perform_generate_of_error (h : (canonicalRequest false payload).outcome = .error failure) :
    app.perform .generate payload = ⟨(canonicalRequest false payload).events, .error failure⟩ :=
  Run.bind_of_error _ h

end App

/-! ## A request with a graph -/

/-- A deployment with no settings but the defaults. -/
def App.plainDeployment : App where
  settings := {
    strategy := .compiler
    apiKey := none
    model := defaultModel
    timeout := Binary64.ofNat 60
    maxRetries := 2
    logLevel := "INFO".toList
    corsOrigins := [['*']] }
  backend := none
  service := fun _ => .timedOut

/-- A request with the compact form of `conversation` in its body. -/
def conversationRequest : Request where
  method := "POST".toList
  path := "/api/generate".toList
  headers := [("Content-TYPE".toList, "Application/JSON; charset=utf-8".toList)]
  body := Utf8.encode (sentGraph conversation)

theorem conversationRequest_declaresJson : conversationRequest.DeclaresJson := by
  unfold Request.DeclaresJson
  decide

theorem accepted_conversation :
    (canonicalRequest false (graphBody conversation)).outcome = .ok conversation := by
  rw [graphBody, canonicalRequest_asBody, canonical_toJson_eq outcome_canonical_rawConversation]
  exact outcome_canonical_rawConversation

end GraphScribe.Api
