import GraphScribe.Completion
import GraphScribe.Proofs.Binary64
import GraphScribe.Proofs.Prompt
import GraphScribe.Proofs.Service

/-!
# How a generation ends

A generation sends the request about its graph once, or not at all where its time has run out at the
start. It ends with the program in the first choice of the completion, with a fault of the generation or,
if the client's call is cancelled, with that (`Generator.Ends`). The choices after the first one and the
members that a completion lacks make no difference (`ClientAnswer.Alike`). Main statement:
`Generator.generate_ends`.
-/

namespace GraphScribe

/-! ## What is read of a completion -/

/-- The text in the first choice of a completion, if it has one. -/
def Completion.content? (completion : Completion) : Option Text := do
  let first ← (← completion.choices.value?).head?
  let message ← first.message.value?
  message.content.value?

theorem Completion.firstContent_read (completion : Completion) :
    Generator.firstContent completion.read = completion.content? := by
  unfold Completion.read Completion.content?
  cases completion.choices.value? with
  | none => rfl
  | some choices =>
    cases choices with
    | nil => rfl
    | cons first rest =>
      -- the choices after the first one are out of the way
      show Generator.firstContent (first.choice :: _) = first.message.value? >>= _
      unfold ReturnedChoice.choice
      cases first.message.value? <;> rfl

-- a null message in the first choice is not made up for by the second one
example : Completion.content? ⟨.given [⟨.null⟩, ⟨.given ⟨.given "late".toList⟩⟩]⟩ = none := rfl

/-- Two answers of which a generation reads the same. -/
inductive ClientAnswer.Alike : ClientAnswer → ClientAnswer → Prop
  | refl (answer : ClientAnswer) : Alike answer answer
  | returned {completion completion' : Completion} (h : completion.content? = completion'.content?) :
      Alike (.returned completion) (.returned completion')

namespace Generator

variable {client : ChatClient} {timeout : Binary64}

/-- A completion is settled by the text in its first choice. -/
theorem settle_returned (generator : Generator) (completion : Completion) :
    generator.settle (ClientAnswer.returned completion).reply
      = (Reply.program completion.content?).mapError Failure.generation := by
  rw [← completion.firstContent_read]
  rfl

theorem settle_eq_ok_iff {generator : Generator} {answer : ClientAnswer} {code : Text} :
    generator.settle answer.reply = .ok code ↔
      ∃ completion, answer = .returned completion ∧ Reply.program completion.content? = .ok code := by
  cases answer with
  | returned completion =>
    rw [settle_returned]
    simp only [mapError_eq_ok_iff, ClientAnswer.returned.injEq, exists_eq_left']
  | failed words => exact iff_of_false nofun nofun
  | timedOut => exact iff_of_false nofun nofun
  | cancelled => exact iff_of_false nofun nofun

/-- A failure that a generation may end with. -/
def IsFailure (answer : ClientAnswer) (failure : Failure) : Prop :=
  (∃ fault, failure = .generation fault) ∨ failure = .cancelled ∧ answer = .cancelled

theorem failsAs_settle (generator : Generator) (answer : ClientAnswer) :
    FailsAs (IsFailure answer) (generator.settle answer.reply) := by
  cases answer with
  | returned completion =>
    rw [settle_returned]
    exact failsAs_mapError (fun fault => .inl ⟨fault, rfl⟩) _
  | failed words => exact failsAs_error (.inl ⟨_, rfl⟩)
  | timedOut => exact failsAs_error (.inl ⟨_, rfl⟩)
  | cancelled => exact failsAs_error (.inr ⟨rfl, rfl⟩)

theorem settle_eq_of_alike (generator : Generator) {answer answer' : ClientAnswer}
    (h : answer.Alike answer') : generator.settle answer.reply = generator.settle answer'.reply := by
  cases h with
  | refl => rfl
  | returned h => rw [settle_returned, settle_returned, h]

/-! ## The run -/

/-- The request about a graph: the rules as they are, and the graph as data. -/
structure Asks (model : Text) (g : Graph) (request : ChatRequest) : Prop where
  model : request.model = model
  temperature : request.temperature = 0
  system : request.system = Prompt.rules
  user : rawOf request.user = Prompt.dataMessage g.toRaw.toJson

theorem asks_request (generator : Generator) (g : Graph) :
    Asks generator.model g (generator.request g) where
  model := rfl
  temperature := rfl
  system := rfl
  user := Prompt.rawOf_messages_snd g

/-- How a generation may go that has this request to send. -/
structure Ends (client : ChatClient) (timeout : Binary64) (request : ChatRequest) (run : Run Text) :
    Prop where
  requests : timeout.AtMostZero ∧ run.requests = [] ∨ ¬ timeout.AtMostZero ∧ run.requests = [request]
  sent : timeout.AboveZero → run.requests = [request]
  ok_iff : ∀ code, run.outcome = .ok code ↔ run.requests = [request] ∧
    ∃ completion, client request = .returned completion ∧
      Reply.program completion.content? = .ok code
  failed : ∀ failure, run.outcome = .error failure →
    (∃ fault, failure = .generation fault) ∨ failure = .cancelled
  cancelled_iff : run.outcome = .error .cancelled ↔
    run.requests = [request] ∧ client request = .cancelled

theorem ends_of_expired {request : ChatRequest} {run : Run Text} {fault : GenerationFault}
    (expired : timeout.AtMostZero) (requests : run.requests = [])
    (outcome : run.outcome = .error (.generation fault)) : Ends client timeout request run where
  requests := .inl ⟨expired, requests⟩
  sent positive := absurd expired ((Binary64.aboveZero_iff timeout).1 positive).1
  ok_iff code := by
    rw [outcome, requests]
    exact iff_of_false nofun nofun
  failed failure h := by
    rw [outcome] at h
    cases h
    exact .inl ⟨fault, rfl⟩
  cancelled_iff := by
    rw [outcome, requests]
    exact iff_of_false nofun nofun

theorem ends_of_live {request : ChatRequest} {run : Run Text} {generator : Generator}
    (live : ¬ timeout.AtMostZero) (requests : run.requests = [request])
    (outcome : run.outcome = generator.settle (client request).reply) :
    Ends client timeout request run where
  requests := .inr ⟨live, requests⟩
  sent _ := requests
  ok_iff code := by rw [outcome, settle_eq_ok_iff, and_iff_right requests]
  failed failure h := by
    rw [outcome] at h
    exact (failsAs_settle generator _ failure h).imp id And.left
  cancelled_iff := by
    rw [outcome, and_iff_right requests]
    constructor
    · intro h
      rcases failsAs_settle generator _ _ h with ⟨fault, hfault⟩ | ⟨-, cancelled⟩
      · cases hfault
      · exact cancelled
    · intro h
      rw [h]
      rfl

/-- A generation sends at most one request, and sends it if its timeout is above zero: the rules and the
graph as data. It gives the program in the first choice that the client returns; whatever else comes of
the call is a fault of the generation or a cancellation; and nothing but the text of the first choice
counts. -/
theorem generate_ends (client : ChatClient) (model : Text) (timeout : Binary64) (g : Graph) :
    ∃ request, Asks model g request ∧
      Ends client timeout request (generate ⟨model, timeout, client.service⟩ g) ∧
      ∀ client' : ChatClient, (client request).Alike (client' request) →
        generate ⟨model, timeout, client'.service⟩ g
          = generate ⟨model, timeout, client.service⟩ g := by
  have asks := asks_request ⟨model, timeout, client.service⟩ g
  refine ⟨request ⟨model, timeout, client.service⟩ g, asks, ?_⟩
  cases hexpired : timeout.isAtMostZero with
  | true =>
    refine ⟨?_, fun client' alike => ?_⟩
    · rw [generate_of_expired hexpired]
      exact ends_of_expired ((Binary64.isAtMostZero_iff timeout).1 hexpired) rfl rfl
    · rw [generate_of_expired hexpired, generate_of_expired hexpired]
      rfl
  | false =>
    have live : ¬ timeout.AtMostZero := by
      rw [← Binary64.isAtMostZero_iff, hexpired]
      exact Bool.false_ne_true
    refine ⟨?_, fun client' alike => ?_⟩
    · rw [generate_of_live hexpired]
      exact ends_of_live live rfl rfl
    · rw [generate_of_live hexpired, generate_of_live hexpired]
      exact congrArg (Run.mk _) (settle_eq_of_alike ⟨model, timeout, client.service⟩ alike).symm

end Generator

end GraphScribe
