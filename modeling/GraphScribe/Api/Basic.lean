import GraphScribe.Api.Cors
import GraphScribe.Encoding.Detect
import GraphScribe.Service

/-!
# The HTTP interface

Four routes: the state of the service, the templates of the editor's palette, the validation of a
graph, and the generation of a program. A request with an unusable body is answered before anything
else is looked at; a rejected graph is the client's fault; every other failure is answered with one
and the same text, and what it was goes to the log.
-/

namespace GraphScribe.Api

/-! ## Requests and answers -/

structure Request where
  method : Text
  path : Text
  headers : List (Text × Text)
  body : List UInt8

/-- An answer: its status, its body, its headers, the failure that was caught at the very last if
there was one, and the events on the way. -/
structure Answer where
  status : Nat
  body : Json
  headers : List (String × Text)
  caught : Option Failure
  events : List Event

/-- The value of a request's first header with the given name, in any case. -/
def Request.header? (request : Request) (name : String) : Option Text :=
  (request.headers.find? fun h => h.1.map Char.toLower == name.toList).map Prod.snd

/-- A deployed service: its settings, a backend that takes the place of the configured one if there
is one, and the chat model behind the connection. -/
structure App where
  settings : Settings
  backend : Option Backend
  service : ChatService

/-! ## Bodies -/

/-- Why a request's body is not looked at any further. -/
inductive BodyFault where
  | mediaType
  | malformed
  | failed (failure : Failure)

/-- The JSON value that a request carries. -/
def readBody (request : Request) : Except BodyFault Json :=
  let mediaType := ((request.header? "content-type").getD []).map Char.toLower
  if !contains "application/json".toList mediaType then .error .mediaType
  else match decodeBody? request.body with
    | none => .error .malformed
    | some text =>
      match Json.read text with
      | .ok value => .ok value
      | .error (.departure ..) => .error .malformed
      | .error fault => .error (.failed (.unreadable fault))

/-! ## Wording -/

/-- What every failure that is not the client's fault is answered with. -/
def genericFailure : String := "Failed to generate code"

/-- A body that says what went wrong. -/
def errorBody (message : String) : Json := .object [Json.field "error" (.text message.toList)]

/-- A body that says what is not there. -/
def detailBody (message : String) : Json := .object [Json.field "detail" (.text message.toList)]

def logger : String := "flowgraph.server.main"

/-- A ready-made fragment of the editor's palette. -/
structure PaletteEntry where
  key : String
  label : String
  description : String
  code : String

def palette : List PaletteEntry := [
  { key := "Conv"
    label := "Chatbot"
    description := "Conversational node: sends the message history to the LLM."
    code := "return \x7b\"messages\": [llm.invoke(state[\"messages\"])]\x7d\n" }]

/-- The JSON form of a fragment of the palette. -/
def PaletteEntry.toJson (entry : PaletteEntry) : Json :=
  .object [
    Json.field "key" (.text entry.key.toList),
    Json.field "label" (.text entry.label.toList),
    Json.field "description" (.text entry.description.toList),
    Json.field "code" (.text entry.code.toList)]

/-! ## Routes -/

inductive Route where
  | health
  | templates
  | validate
  | generate
  deriving DecidableEq

def Route.all : List Route := [health, templates, validate, generate]

def Route.path : Route → Text
  | health => "/health".toList
  | templates => "/api/node-templates".toList
  | validate => "/api/graph/validate".toList
  | generate => "/api/generate".toList

/-- The route at a path. One line feed at the end of a path does not count. -/
def Route.ofPath? (path : Text) : Option Route :=
  Route.all.find? fun route => route.path == Text.dropFinalNewline path

/-- Every route is found at its own path. -/
theorem Route.ofPath?_path (route : Route) : Route.ofPath? route.path = some route := by
  cases route <;> decide

/-- The method that a route answers to. -/
def Route.method : Route → Text
  | health | templates => "GET".toList
  | validate | generate => "POST".toList

def App.backendFor (app : App) : Except Failure Backend :=
  match app.backend with
  | some backend => .ok backend
  | none =>
    ((BackendChoice.ofSettings app.settings).map (BackendChoice.backend app.service)).mapError
      .misconfigured

/-- What a route does with the body of a request, and the body of its answer. -/
def App.perform (app : App) (route : Route) (body : Json) : Run Json :=
  match route with
  | .health =>
    pure (.object [
      Json.field "status" (.text "ok".toList),
      Json.field "strategy" (.text app.settings.strategy.name.toList)])
  | .templates => pure (.array (palette.map PaletteEntry.toJson))
  | .validate => do
    let g ← canonicalRequest false body
    return .object [Json.field "graphJSON" g.toJson]
  | .generate => do
    let g ← canonicalRequest false body
    -- a deployment without its credential still validates graphs
    let backend ← Run.ofExcept app.backendFor
    let code ← writeProgram backend g
    return .object [Json.field "code" (.text code)]

/-! ## Answers -/

/-- The answer to a request, before its origin is looked at: the status, the body, the failure that
was caught at the very last, and the last record of the log. -/
structure Settled where
  status : Nat
  body : Json
  caught : Option Failure
  record : Option Record

/-- How a run that failed is answered. -/
def settleFailure (path : Text) (failure : Failure) : Settled :=
  let failed (caught : Option Failure) (message : String) : Settled :=
    ⟨500, errorBody genericFailure, caught, some ⟨.error, logger, message⟩⟩
  match failure with
  -- the only failure that is told to the client as it is
  | .rejected rejection => ⟨400, errorBody rejection.message, none, none⟩
  | .misconfigured fault =>
    failed none s!"Service misconfigured on {String.ofList path}: {fault.message}"
  | .generation _ => failed none s!"Generation failed on {String.ofList path}"
  | other => failed (some other) s!"Unhandled error on {String.ofList path}"

def settle (path : Text) : Except Failure Json → Settled
  | .ok body => ⟨200, body, none, none⟩
  | .error failure => settleFailure path failure

def settleBodyFault (path : Text) : BodyFault → Settled
  | .mediaType => ⟨415, errorBody "Content-Type must be application/json", none, none⟩
  | .malformed => ⟨400, errorBody "Body must be valid JSON", none, none⟩
  | .failed failure => settleFailure path failure

/-- The answer of a route, and the events on the way. -/
def App.serve (app : App) (route : Route) (request : Request) : List Event × Settled :=
  let performed (body : Json) : List Event × Settled :=
    let run := app.perform route body
    (run.events, settle route.path run.outcome)
  match route with
  | .health | .templates => performed .null
  | .validate | .generate =>
    match readBody request with
    | .ok body => performed body
    | .error fault => ([], settleBodyFault route.path fault)

/-- The answer to a request, and the events on the way. -/
def App.dispatch (app : App) (request : Request) : List Event × Settled :=
  match Route.ofPath? request.path with
  | none => ([], ⟨404, detailBody "Not Found", none, none⟩)
  | some route =>
    if request.method = route.method then app.serve route request
    else ([], ⟨405, detailBody "Method Not Allowed", none, none⟩)

/-- What adds the headers for other origins to the answer to a request, under a policy. A request that
asks in advance is answered by the layer alone, and of that answer these headers are all that is meant. -/
abbrev CorsLayer := Cors.Policy → Request → List (String × Text)

/-- The layer that looks at nothing but the origin of a request. -/
def CorsLayer.plain : CorsLayer := fun policy request => policy.headers (request.header? "origin")

/-- What a service says about other origins. -/
def App.policy (app : App) : Cors.Policy := Cors.Policy.ofOrigins app.settings.corsOrigins

/-- The answer to a request behind some layer. A failure that is caught at the very last is answered
without the headers for other origins. -/
def App.respondBehind (layer : CorsLayer) (app : App) (request : Request) : Answer :=
  let (events, settled) := app.dispatch request
  let cors := match settled.caught with
    | some _ => []
    | none => layer app.policy request
  { status := settled.status
    body := settled.body
    headers := ("content-type", "application/json".toList) :: cors
    caught := settled.caught
    events := events ++ (settled.record.map Event.logged).toList }

/-- The answer to a request. -/
def App.respond (app : App) (request : Request) : Answer := app.respondBehind .plain request

end GraphScribe.Api
