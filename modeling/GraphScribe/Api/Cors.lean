import GraphScribe.Settings.Basic

/-!
# Cross-origin headers

Which origins may read an answer. With a wildcard among the configured origins everyone may, without
credentials; otherwise only a configured origin may, and credentials are allowed. The policy decides
about credentials, and the headers follow the policy.
-/

namespace GraphScribe.Cors

/-- The header that names the origin that may read the answer. -/
def allowOrigin : String := "access-control-allow-origin"

/-- The header that lets credentials be sent. -/
def allowCredentials : String := "access-control-allow-credentials"

/-- What a deployment says about other origins: which of them may read an answer, and whether
credentials may be sent along. -/
structure Policy where
  origins : List Text
  credentials : Bool

/-- The policy for some configured origins: a wildcard among them rules credentials out. -/
def Policy.ofOrigins (origins : List Text) : Policy := ⟨origins, !origins.contains ['*']⟩

/-- The headers that a policy gives to a request from some origin; a request without an origin gets
none. -/
def Policy.headers (policy : Policy) (origin : Option Text) : List (String × Text) :=
  match origin with
  | none => []
  | some origin =>
    (if policy.credentials then [(allowCredentials, "true".toList)] else []) ++
      if policy.origins.contains ['*'] then [(allowOrigin, ['*'])]
      else if policy.origins.contains origin then [(allowOrigin, origin)]
      else []

end GraphScribe.Cors
