import GraphScribe.Generator

/-!
# What a client returns

A client of a chat model returns a completion as objects within objects, and any member of any of them
may be missing or null. A member without a value counts as nothing, and so do choices that are an empty
list.
-/

namespace GraphScribe

/-- A member of an object: it may be missing, and it may be null. -/
inductive Member (α : Type) where
  | missing
  | null
  | given (value : α)
  deriving DecidableEq

/-- The value of a member, if it has one. -/
def Member.value? {α : Type} : Member α → Option α
  | missing => none
  | null => none
  | given value => some value

structure ReturnedMessage where
  content : Member Text
  deriving DecidableEq

structure ReturnedChoice where
  message : Member ReturnedMessage
  deriving DecidableEq

structure Completion where
  choices : Member (List ReturnedChoice)
  deriving DecidableEq

/-- What a choice is to the generator. -/
def ReturnedChoice.choice (returned : ReturnedChoice) : Choice :=
  match returned.message.value? with
  | some message => .message message.content.value?
  | none => .noMessage

/-- What the choices of a completion are to the generator. -/
def Completion.read (completion : Completion) : List Choice :=
  (completion.choices.value?.getD []).map ReturnedChoice.choice

/-- What comes of a call of a client: it returns a completion, or it is ended by an error. -/
inductive ClientAnswer where
  | returned (completion : Completion)
  | failed (words : Text)
  | timedOut
  | cancelled
  deriving DecidableEq

def ClientAnswer.reply : ClientAnswer → ChatReply
  | returned completion => .completion completion.read
  | failed words => .failed words
  | timedOut => .timedOut
  | cancelled => .cancelled

/-- A client of a chat model. -/
abbrev ChatClient := ChatRequest → ClientAnswer

/-- The chat model as its client presents it. -/
def ChatClient.service (client : ChatClient) : ChatService := fun request => (client request).reply

end GraphScribe
