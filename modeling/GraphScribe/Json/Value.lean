import GraphScribe.Text.Point

/-!
# JSON values

A number keeps its spelling, because nothing in this library computes with it. An object keeps its
members in order; where a key occurs more than once, the last member with that key counts.
-/

namespace GraphScribe

inductive Json where
  | null
  | bool (value : Bool)
  | number (spelling : Text)
  | string (text : RawText)
  | array (items : List Json)
  | object (members : List (RawText × Json))
  deriving Inhabited

namespace Json

/-- The last member with the given key. -/
def lastMember? (key : RawText) : List (RawText × Json) → Option Json
  | [] => none
  | (k, v) :: rest =>
    match lastMember? key rest with
    | some w => some w
    | none => if k = key then some v else none

/-- The member of an object with the given key; no other value has members. -/
def get? (key : String) : Json → Option Json
  | object members => lastMember? (rawOf key.toList) members
  | _ => none

/-- The member with the given key, where an absent member counts as null. -/
def member (key : String) (members : List (RawText × Json)) : Json :=
  (lastMember? (rawOf key.toList) members).getD null

def text (t : Text) : Json := string (rawOf t)

def field (key : String) (value : Json) : RawText × Json := (rawOf key.toList, value)

end Json

end GraphScribe
