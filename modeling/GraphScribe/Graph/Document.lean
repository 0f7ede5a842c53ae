import GraphScribe.Graph.Canonical

/-!
# Graph documents

A graph stored in a file: octets in UTF-8, any of the three customary line ends, and JSON. The same
graph can also be taken as it stands from JSON that is known to be canonical.
-/

namespace GraphScribe

/-- The JSON value that a document's octets hold. -/
def documentJson (octets : List UInt8) : Except Failure Json := do
  let decoded ← (Utf8.decode .strict octets).mapError .undecodable
  (Json.readDocument (decoded.unifyLineEnds)).mapError .unreadable

def canonicalFile (strict : Bool) (octets : List UInt8) : Run Graph := do
  let document ← Run.ofExcept (documentJson octets)
  canonicalDocument strict document

/-! ## Graphs from trusted JSON -/

/-- The text that an optional member holds, if it is a string. -/
def textMember? (key : String) (members : List (RawText × Json)) : Option Text :=
  match Json.member key members with
  | .string t => some (RawText.text t)
  | _ => none

/-- The text of a member that has to be there. -/
def requiredText (key : String) (members : List (RawText × Json)) : Except Failure Text :=
  match textMember? key members with
  | some t => .ok t
  | none => .error (.missingMember key)

/-- The members of an object; any other value has none. -/
def membersOf : Json → List (RawText × Json)
  | .object members => members
  | _ => []

/-- The items of an array; any other value has none. -/
def itemsOf : Json → List Json
  | .array items => items
  | _ => []

/-- The node that a canonical JSON node is. -/
def Node.ofJson (value : Json) : Except Failure Node := do
  let members := membersOf value
  let id ← requiredText "id" members
  return ⟨id, (textMember? "type" members).getD stepType, textMember? "label" members,
    textMember? "code" members⟩

/-- The edge that a canonical JSON edge is. -/
def Edge.ofJson (value : Json) : Except Failure Edge := do
  let members := membersOf value
  return ⟨← requiredText "source" members, ← requiredText "target" members⟩

/-- The graph that a canonical JSON graph is. -/
def Graph.ofJson (value : Json) : Except Failure Graph := do
  let members := membersOf value
  let nodes ← (itemsOf (Json.member "nodes" members)).mapM Node.ofJson
  let edges ← (itemsOf (Json.member "edges" members)).mapM Edge.ofJson
  return ⟨nodes, edges⟩

end GraphScribe
