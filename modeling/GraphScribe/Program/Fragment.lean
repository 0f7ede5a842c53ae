import GraphScribe.Text.Lines
import GraphScribe.Text.Quoted

/-!
# Code fragments

The code of a node is the body of a function without its header. It is brought to column zero, cut
into lines, and freed of the blank lines around it. A body without any statement, that is with
nothing but blank lines and comments, gets one that says the node is not implemented.
-/

namespace GraphScribe

/-- The lines of a fragment: dedented, without the blank lines at either end. -/
def fragmentLines (code : Text) : List Text := trimBy Text.isBlank (Text.lines (Text.dedent code))

/-- The lines of a fragment that may be absent. -/
def bodyLines (code : Option Text) : List Text :=
  match code with
  | none => []
  | some code => fragmentLines code

/-- Does the line hold more than blanks and a comment? -/
def isStatement (line : Text) : Bool :=
  match line.dropWhile isBlankChar with
  | [] => false
  | c :: _ => c != '#'

/-- Does any of the lines hold more than blanks and a comment? -/
def hasStatement (lines : List Text) : Bool := lines.any isStatement

/-- What a node that is not implemented says of itself. -/
def notImplementedMessage (name : Text) : Text :=
  "Node ".toList ++ quoted name ++ " is not implemented".toList

/-- The statement of a node that is not implemented. -/
def notImplementedStatement (name : Text) : Text :=
  "raise NotImplementedError(".toList ++ quoted (notImplementedMessage name) ++ [')']

/-- The lines of a function's body: those of the fragment, and where they hold no statement, one
that says so. -/
def functionBody (name : Text) (code : Option Text) : List Text :=
  let lines := bodyLines code
  -- comments stay, and the statement stands below them
  if hasStatement lines then lines else lines ++ [notImplementedStatement name]

end GraphScribe
