import GraphScribe.Api.Basic
import GraphScribe.Proofs.Settings

/-!
# Credentials and other origins

A browser must never be told both that any site may read an answer and that the user's credentials go
along. What tells it is a layer around the service, which does as its policy says (`Documented`). The
policy comes from one variable of the environment, as a list with commas in which blanks and empty
entries do not count. Wherever a wildcard stands in that list, credentials are off; where they are on,
an answer may be read by an origin of the list only (`App.credentials_need_listed_origin`).
-/

namespace GraphScribe

/-! ## Origins of an environment -/

namespace Settings

/-- The origin is an entry of the variable for origins, which is a lone wildcard when it is not there
or empty. -/
def ListsOrigin (env : Environment) (origin : Text) : Prop :=
  ∃ entry ∈ splitOn ',' ((env.given? "FLOWGRAPH_CORS_ORIGINS").getD ['*']), Text.trim entry = origin

instance (env : Environment) (origin : Text) : Decidable (ListsOrigin env origin) :=
  inferInstanceAs (Decidable (∃ entry ∈ splitOn ',' _, Text.trim entry = origin))

theorem mem_originsIn {list origin : Text} :
    origin ∈ originsIn list ↔ origin ≠ [] ∧ ∃ entry ∈ splitOn ',' list, Text.trim entry = origin := by
  unfold originsIn
  rw [List.mem_filter, List.mem_map, and_comm]
  simp

theorem mem_corsOrigins {env : Environment} {s : Settings} (h : ofEnvironment env = .ok s)
    {origin : Text} : origin ∈ s.corsOrigins ↔ origin ≠ [] ∧ ListsOrigin env origin := by
  rw [(ofEnvironment_eq_ok_iff.1 h).corsOrigins]
  exact mem_originsIn

theorem wildcard_mem_corsOrigins {env : Environment} {s : Settings} (h : ofEnvironment env = .ok s) :
    ['*'] ∈ s.corsOrigins ↔ ListsOrigin env ['*'] := by
  rw [mem_corsOrigins h]
  exact and_iff_right (by simp)

/-- Without a wildcard among its origins an environment has the variable, and the origins are entries
of what it says. -/
theorem exists_entry_of_not_listsOrigin {env : Environment} (none_wild : ¬ ListsOrigin env ['*'])
    {origin : Text} (h : ListsOrigin env origin) :
    ∃ given, env.get? "FLOWGRAPH_CORS_ORIGINS" = some given ∧
      ∃ entry ∈ splitOn ',' given, Text.trim entry = origin := by
  unfold ListsOrigin at none_wild h
  cases present : env.given? "FLOWGRAPH_CORS_ORIGINS" with
  | none =>
    rw [present] at none_wild
    exact absurd ⟨['*'], by decide, by decide⟩ none_wild
  | some given =>
    rw [present] at h
    exact ⟨given, (Option.filter_eq_some_iff.1 present).1, h⟩

end Settings

/-! ## What is known of the layer -/

namespace Api

/-- What the layer for other origins promises about its two headers: with a wildcard among the origins
of its policy every origin may read the answer, otherwise exactly a listed one may, by its own name;
and credentials are allowed exactly if the policy says so. -/
structure CorsLayer.Documented (layer : CorsLayer) : Prop where
  wildcard : ∀ {policy : Cors.Policy} {request : Request} {origin : Text},
    request.header? "origin" = some origin → ['*'] ∈ policy.origins →
    ∀ v, ("access-control-allow-origin", v) ∈ layer policy request ↔ v = ['*']
  listed : ∀ {policy : Cors.Policy} {request : Request} {origin : Text},
    request.header? "origin" = some origin → ['*'] ∉ policy.origins →
    ∀ v, ("access-control-allow-origin", v) ∈ layer policy request ↔
      v = origin ∧ origin ∈ policy.origins
  credentials : ∀ {policy : Cors.Policy} {request : Request} {origin : Text},
    request.header? "origin" = some origin →
    ∀ v, ("access-control-allow-credentials", v) ∈ layer policy request ↔
      v = "true".toList ∧ policy.credentials = true

theorem CorsLayer.documented_plain : CorsLayer.plain.Documented := by
  constructor
  case wildcard =>
    intro policy request origin sent wild v
    unfold plain Cors.Policy.headers
    rw [sent]
    dsimp only
    rw [if_pos (List.contains_iff_mem.2 wild)]
    simp [Cors.allowOrigin, Cors.allowCredentials]
  case listed =>
    intro policy request origin sent tame v
    unfold plain Cors.Policy.headers
    rw [sent]
    dsimp only
    rw [if_neg fun h => tame (List.contains_iff_mem.1 h)]
    simp [Cors.allowOrigin, Cors.allowCredentials, and_comm]
  case credentials =>
    intro policy request origin sent v
    unfold plain Cors.Policy.headers
    rw [sent]
    dsimp only
    rw [List.mem_append]
    refine (or_iff_left ?_).trans (by simp [Cors.allowCredentials, and_comm])
    -- the other part of the headers is about the origin
    repeat' split
    all_goals simp [Cors.allowOrigin]

/-! ## Answers -/

/-- The answer carries the header with this value. -/
def Answer.Carries (answer : Answer) (name : String) (value : Text) : Prop :=
  (name, value) ∈ answer.headers

namespace App

variable {env : Environment} {app : App} {layer : CorsLayer} {request : Request} {origin : Text}

theorem policy_credentials (app : App) :
    app.policy.credentials = true ↔ ['*'] ∉ app.settings.corsOrigins := by
  unfold policy Cors.Policy.ofOrigins
  simp

/-- Beside the kind of its body an answer carries what the layer gives, unless its failure was caught
at the very last. -/
theorem carries_iff {name : String} (other : name ≠ "content-type") (value : Text) :
    (app.respondBehind layer request).Carries name value ↔
      (app.respondBehind layer request).caught = none ∧ (name, value) ∈ layer app.policy request := by
  unfold Answer.Carries respondBehind
  dsimp only
  cases (app.dispatch request).2.caught with
  | none => simp [other]
  | some failure => simp [other]

theorem carries_credentials_iff (loaded : Settings.ofEnvironment env = .ok app.settings)
    (documented : layer.Documented) (sent : request.header? "origin" = some origin) (v : Text) :
    (app.respondBehind layer request).Carries "access-control-allow-credentials" v ↔
      (app.respondBehind layer request).caught = none ∧ v = "true".toList ∧
        ¬ Settings.ListsOrigin env ['*'] := by
  rw [carries_iff (by decide), documented.credentials sent, policy_credentials,
    Settings.wildcard_mem_corsOrigins loaded]

theorem carries_origin_iff_of_wildcard (loaded : Settings.ofEnvironment env = .ok app.settings)
    (documented : layer.Documented) (sent : request.header? "origin" = some origin)
    (wild : Settings.ListsOrigin env ['*']) (v : Text) :
    (app.respondBehind layer request).Carries "access-control-allow-origin" v ↔
      (app.respondBehind layer request).caught = none ∧ v = ['*'] := by
  have configured : ['*'] ∈ app.policy.origins := (Settings.wildcard_mem_corsOrigins loaded).2 wild
  rw [carries_iff (by decide), documented.wildcard sent configured]

theorem carries_origin_iff_of_tame (loaded : Settings.ofEnvironment env = .ok app.settings)
    (documented : layer.Documented) (sent : request.header? "origin" = some origin)
    (tame : ¬ Settings.ListsOrigin env ['*']) (v : Text) :
    (app.respondBehind layer request).Carries "access-control-allow-origin" v ↔
      (app.respondBehind layer request).caught = none ∧ v = origin ∧ origin ≠ [] ∧
        Settings.ListsOrigin env origin := by
  have configured : ['*'] ∉ app.policy.origins := fun h =>
    tame ((Settings.wildcard_mem_corsOrigins loaded).1 h)
  have entries : origin ∈ app.policy.origins ↔ origin ≠ [] ∧ Settings.ListsOrigin env origin :=
    Settings.mem_corsOrigins loaded
  rw [carries_iff (by decide), documented.listed sent configured, entries]

/-- No answer says both that every site may read it and that credentials may be sent. Where an answer
says that credentials may be sent, it may be read by the request's own origin only, and only if that
is an entry of the variable for origins. An answer does say so much, unless its failure was caught at
the very last: that every site may read it where a wildcard is listed, and otherwise that credentials
may be sent, and that a listed origin may read it. -/
theorem credentials_need_listed_origin (loaded : Settings.ofEnvironment env = .ok app.settings)
    (documented : layer.Documented) (sent : request.header? "origin" = some origin) :
    ¬ ((app.respondBehind layer request).Carries "access-control-allow-origin" ['*'] ∧
      (app.respondBehind layer request).Carries "access-control-allow-credentials" "true".toList) ∧
    ((app.respondBehind layer request).Carries "access-control-allow-credentials" "true".toList →
      ∀ v, (app.respondBehind layer request).Carries "access-control-allow-origin" v →
        v = origin ∧ ∃ given, env.get? "FLOWGRAPH_CORS_ORIGINS" = some given ∧
          ∃ entry ∈ splitOn ',' given, Text.trim entry = origin) ∧
    ((app.respondBehind layer request).caught = none →
      (Settings.ListsOrigin env ['*'] →
        (app.respondBehind layer request).Carries "access-control-allow-origin" ['*']) ∧
      (¬ Settings.ListsOrigin env ['*'] →
        (app.respondBehind layer request).Carries "access-control-allow-credentials" "true".toList ∧
        (origin ≠ [] → Settings.ListsOrigin env origin →
          (app.respondBehind layer request).Carries "access-control-allow-origin" origin))) := by
  have credentials := carries_credentials_iff loaded documented sent
  have wildcard := carries_origin_iff_of_wildcard loaded documented sent
  have tame := carries_origin_iff_of_tame loaded documented sent
  refine ⟨?_, fun allowed v hv => ?_, fun uncaught => ⟨fun wild => ?_, fun listed => ⟨?_, ?_⟩⟩⟩
  · rintro ⟨everyone, allowed⟩
    -- credentials are off where a wildcard is listed, and no origin that is listed is one elsewhere
    obtain ⟨-, -, listed⟩ := (credentials _).1 allowed
    obtain ⟨-, same, -, entry⟩ := (tame listed _).1 everyone
    exact listed (same ▸ entry)
  · obtain ⟨-, -, listed⟩ := (credentials _).1 allowed
    obtain ⟨-, same, -, entry⟩ := (tame listed _).1 hv
    exact ⟨same, Settings.exists_entry_of_not_listsOrigin listed entry⟩
  · exact (wildcard wild _).2 ⟨uncaught, rfl⟩
  · exact (credentials _).2 ⟨uncaught, rfl, listed⟩
  · exact fun visible entry => (tame listed _).2 ⟨uncaught, rfl, visible, entry⟩

/-- An environment with two origins in it, and a blank entry between them. -/
def originsEnvironment : Environment :=
  [("FLOWGRAPH_CORS_ORIGINS".toList, " http://localhost:3000 , ,https://example.com".toList)]

/-- A deployment with the settings of that environment. -/
def listingDeployment : App where
  settings := {
    strategy := .compiler
    apiKey := none
    model := "gpt-4.1-mini".toList
    timeout := Binary64.ofNat 60
    maxRetries := 2
    logLevel := "INFO".toList
    corsOrigins := ["http://localhost:3000".toList, "https://example.com".toList] }
  backend := none
  service := fun _ => .timedOut

/-- A request for the state of the service from a page at the second of the two origins. -/
def pageRequest : Request where
  method := "GET".toList
  path := "/health".toList
  headers := [("Origin".toList, "https://example.com".toList)]
  body := []

theorem credentials_need_listed_origin_second :
    Settings.ofEnvironment originsEnvironment = .ok listingDeployment.settings ∧
      CorsLayer.plain.Documented ∧
      pageRequest.header? "origin" = some "https://example.com".toList ∧
      (listingDeployment.respond pageRequest).Carries "access-control-allow-credentials"
        "true".toList ∧
      (listingDeployment.respond pageRequest).Carries "access-control-allow-origin"
        "https://example.com".toList ∧
      ¬ (listingDeployment.respond pageRequest).Carries "access-control-allow-origin" ['*'] := by
  have loaded : Settings.ofEnvironment originsEnvironment = .ok listingDeployment.settings := by
    decide
  have sent : pageRequest.header? "origin" = some "https://example.com".toList := by decide
  have tame : ¬ Settings.ListsOrigin originsEnvironment ['*'] := by decide
  have entry : Settings.ListsOrigin originsEnvironment "https://example.com".toList := by decide
  obtain ⟨apart, -, granted⟩ :=
    credentials_need_listed_origin loaded CorsLayer.documented_plain sent
  obtain ⟨allowed, named⟩ := (granted rfl).2 tame
  exact ⟨loaded, CorsLayer.documented_plain, sent, allowed, named (by decide) entry,
    fun everyone => apart ⟨everyone, allowed⟩⟩

end App

end Api

end GraphScribe
