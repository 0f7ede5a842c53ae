import GraphScribe.Graph.Draft
import GraphScribe.Graph.Structure
import GraphScribe.Run

/-!
# Canonical graphs

From an arbitrary JSON value to the graph that everything else works on: the parts are cleaned, the
size of the whole is taken, and the structure is checked. Nothing is accepted in part. Warnings are
events of the run and remain when the run fails.
-/

namespace GraphScribe

/-- The size of a draft in octets: its compact JSON form in UTF-8. Lone halves have no such form. -/
def Draft.octets (d : Draft) : Except Failure Nat :=
  let written := d.toJson.compact
  match RawText.firstLoneRun? written with
  | some (position, run) => .error (.unencodable position run)
  | none => .ok (RawText.octets written)

/-- The graph that a draft is, if its size is within the limit. -/
def Draft.seal (d : Draft) : Except Failure Graph := do
  let size ← d.octets
  if octetLimit < size then .error (.rejected ⟨.graph, .tooLarge size⟩)
  else return d.toGraph

/-- A graph that has been checked against its own structure, with the warnings on the way. -/
def checked (strict : Bool) (g : Graph) : Run Graph :=
  let (warnings, fault) := checkStructure strict g
  ⟨warnings.map .warned, match fault with
    | some rejection => .error (.rejected rejection)
    | none => .ok g⟩

/-- The canonical graph that a JSON value describes. -/
def canonical (strict : Bool) (value : Json) : Run Graph := do
  let draft ← Run.ofExcept ((cleanGraph value).mapError .rejected)
  let graph ← Run.ofExcept draft.seal
  checked strict graph

/-- The size of a graph in octets. -/
def Graph.octets (g : Graph) : Nat := RawText.octets g.toJson.compact

/-- The canonical graph of a request body: an object with the graph under the key `graphJSON`. -/
def canonicalRequest (strict : Bool) (body : Json) : Run Graph :=
  match expectObject .body body with
  | .error rejection => .fail (.rejected rejection)
  | .ok members => canonical strict (Json.member "graphJSON" members)

/-- The canonical graph of a document: of the request body that it is, if it has the key
`graphJSON`, and of itself otherwise. -/
def canonicalDocument (strict : Bool) (document : Json) : Run Graph :=
  match document.get? "graphJSON" with
  | some _ => canonicalRequest strict document
  | none => canonical strict document

end GraphScribe
