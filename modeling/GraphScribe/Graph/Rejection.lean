import GraphScribe.Graph.Basic
import GraphScribe.Text.Quoted

/-!
# Rejections

Why a graph is not accepted, and at which place of it. The same pair is a warning where the graph is
accepted all the same.
-/

namespace GraphScribe

inductive NodeField where
  | id
  | type
  | label
  | code
  deriving DecidableEq

inductive EdgeEnd where
  | source
  | target
  deriving DecidableEq

inductive Place where
  | body
  | graph
  | nodes
  | edges
  | node (index : Nat)
  | nodeField (index : Nat) (field : NodeField)
  | edge (index : Nat)
  | edgeEnd (index : Nat) (side : EdgeEnd)
  | named (name : Text)
  | nowhere
  deriving DecidableEq

inductive Reason where
  | notObject
  | notArray
  | notString
  | idMissing
  | idControl
  | idTooLong
  | idCharacters
  | typeTooLong
  | labelTooLong
  | codeTooLong
  | tooManyNodes (count : Nat)
  | tooManyEdges (count : Nat)
  | tooLarge (octets : Nat)
  | markerId (id : Text)
  | duplicateId (id : Text)
  | runtimeName (name : Text)
  | nameTaken (name : Text) (owner : Nat)
  | unknownNode (id : Text)
  | borrowedName (id : Text) (owner : Nat)
  | notWritten (id type : Text)
  | stated (words : Text)
  deriving DecidableEq

structure Rejection where
  place : Place
  reason : Reason
  deriving DecidableEq

/-! ## Wording -/

def NodeField.name : NodeField → String
  | id => "id"
  | type => "type"
  | label => "label"
  | code => "code"

def EdgeEnd.name : EdgeEnd → String
  | source => "source"
  | target => "target"

/-- The name of a place, if it has one. -/
def Place.name? : Place → Option String
  | body => some "body"
  | graph => some "graph"
  | nodes => some "graph.nodes"
  | edges => some "graph.edges"
  | node index => some s!"nodes[{index}]"
  | nodeField index field => some s!"nodes[{index}].{field.name}"
  | edge index => some s!"edges[{index}]"
  | edgeEnd index side => some s!"edges[{index}].{side.name}"
  | named name => some (String.ofList name)
  | nowhere => none

def Reason.message : Reason → String
  | notObject => "must be a JSON object"
  | notArray => "must be an array"
  | notString => "must be a string"
  | idMissing => "identifier is required"
  | idControl => "identifier must not contain control characters"
  | idTooLong => s!"identifier must not exceed {idLimit} characters"
  | idCharacters => "identifier may only contain letters, digits, '-' or '_'"
  | typeTooLong => s!"type must not exceed {nameLimit} characters"
  | labelTooLong => s!"label must not exceed {nameLimit} characters"
  | codeTooLong => s!"code must not exceed {codeLimit} characters"
  | tooManyNodes count => s!"too many nodes ({count} > {nodeLimit})"
  | tooManyEdges count => s!"too many edges ({count} > {edgeLimit})"
  | tooLarge octets => s!"serialized graph is too large ({octets} > {octetLimit} bytes)"
  | markerId id => s!"'{String.ofList id}' is reserved for the graph entry/exit markers"
  | duplicateId id => s!"duplicate node id '{String.ofList id}'"
  | runtimeName name => s!"node name '{String.ofList name}' is reserved by the LangGraph runtime"
  | nameTaken name owner =>
    s!"node name {String.ofList (quoted name)} is already used by nodes[{owner}]"
  | unknownNode id => s!"unknown node '{String.ofList id}'"
  | borrowedName id owner =>
    s!"node '{String.ofList id}' shares its name with nodes[{owner}] and cannot be an edge endpoint"
  | notWritten id type =>
    s!"node '{String.ofList id}' has type '{String.ofList type}' and is not emitted as a graph node"
  | stated words => String.ofList words

/-- A rejection in words: the place, if it has a name that is not empty, and the reason. -/
def Rejection.message (r : Rejection) : String :=
  match r.place.name? with
  | some name => if name.isEmpty then r.reason.message else s!"{name}: {r.reason.message}"
  | none => r.reason.message

end GraphScribe
