import GraphScribe.Encoding.Utf8
import GraphScribe.Text.Case

/-!
# Paths

A path is a root and the names after it. Empty names and single dots are dropped when a path is
read, and double dots are kept, because what they mean depends on the files that are there.
-/

namespace GraphScribe

/-- A path: its root, which is empty for a relative path, and its names. -/
structure Path where
  root : Text
  names : List Text
  deriving DecidableEq

namespace Path

/-- The root that a text with slashes at its start has: none, one slash, or exactly two. -/
def rootOf : Text → Text
  | ['/', '/'] => ['/', '/']
  | '/' :: '/' :: c :: _ => if c = '/' then ['/'] else ['/', '/']
  | '/' :: _ => ['/']
  | _ => []

def ofText (t : Text) : Path :=
  ⟨rootOf t, (splitOn '/' t).filter fun name => name ≠ [] ∧ name ≠ ['.']⟩

/-- The spelling of a path; the empty one is spelled as a dot. -/
def toText (p : Path) : Text :=
  if p.root = [] ∧ p.names = [] then ['.'] else p.root ++ joinWith ['/'] p.names

def child (p : Path) (name : Text) : Path := ⟨p.root, p.names ++ [name]⟩

def nameLimit : Nat := 255

/-- The most octets of a whole path. -/
def lengthLimit : Nat := 4095

/-- Has the name more octets than a name may have? -/
def isOverlongName (name : Text) : Bool := nameLimit < (Utf8.encode name).length

/-- Has the path more octets than a path may have? -/
def isOverlong (p : Path) : Bool := lengthLimit < (Utf8.encode p.toText).length

/-- Does the path hold a null character, which no path may hold? -/
def hasNull (p : Path) : Bool := p.names.any fun name => name.contains '\x00'

/-- The last name of a path; the empty path has the empty one. -/
def lastName (p : Path) : Text := p.names.getLastD []

/-- A name without its suffix. A dot at the start or at the end begins no suffix. -/
def stemOf (name : Text) : Text :=
  let suffix := name.reverse.takeWhile (· != '.')
  let before := name.take (name.length - suffix.length - 1)
  if suffix.length < name.length ∧ suffix ≠ [] ∧ before ≠ [] then before else name

/-- The name of the program for a graph file with the given stem. -/
def programFileName (stem : Text) : Text :=
  (Text.lower stem).map (fun c => if c = '-' ∨ c = ' ' then '_' else c) ++ ".py".toList

end Path

end GraphScribe
