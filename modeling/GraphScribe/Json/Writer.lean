import GraphScribe.Json.Value
import GraphScribe.Text.Hex

/-!
# Writing JSON

Two layouts: the compact one without any blanks, and the indented one with each item and member on
a line of its own. In both, strings are written as they are, except for the quote, the backslash and
the characters below U+0020.
-/

namespace GraphScribe.Json

/-- How one code point is written inside a string. -/
def stringPoint (p : Point) : RawText :=
  match p with
  | .lone _ => [p]
  | .scalar c =>
    if c = '\x22' ∨ c = '\\' then rawOf ['\\', c]
    else if c = '\n' then rawOf ['\\', 'n']
    else if c = '\r' then rawOf ['\\', 'r']
    else if c = '\t' then rawOf ['\\', 't']
    else if c = '\x08' then rawOf ['\\', 'b']
    else if c = '\x0c' then rawOf ['\\', 'f']
    else if c.toNat < 0x20 then rawOf ('\\' :: 'u' :: hexDigits 4 c.toNat)
    else [p]

def stringLiteral (t : RawText) : RawText :=
  .scalar '\x22' :: t.flatMap stringPoint ++ [.scalar '\x22']

/-- A layout: what stands before the first item at some depth, between items, after the last one,
and between a key and its value. -/
structure Layout where
  openItems : Nat → Text
  nextItem : Nat → Text
  closeItems : Nat → Text
  colon : Text

def compactLayout : Layout where
  openItems _ := []
  nextItem _ := [',']
  closeItems _ := []
  colon := [':']

/-- A line end and two spaces of indentation for each level. -/
def lineAt (depth : Nat) : Text := '\n' :: List.replicate (2 * depth) ' '

/-- Every item on a line of its own. -/
def indentedLayout : Layout where
  openItems depth := lineAt (depth + 1)
  nextItem depth := ',' :: lineAt (depth + 1)
  closeItems depth := lineAt depth
  colon := [':', ' ']

def bracketed (layout : Layout) (depth : Nat) (left right : Char) : List RawText → RawText
  | [] => rawOf [left, right]
  | item :: items =>
    rawOf (left :: layout.openItems depth) ++ item
      ++ items.flatMap (fun next => rawOf (layout.nextItem depth) ++ next)
      ++ rawOf (layout.closeItems depth ++ [right])

mutual

/-- A value at some depth, written in a layout. -/
def writeAt (layout : Layout) (depth : Nat) : Json → RawText
  | null => rawOf "null".toList
  | bool b => rawOf (if b then "true" else "false").toList
  | number spelling => rawOf spelling
  | string t => stringLiteral t
  | array items => bracketed layout depth '[' ']' (writeItems layout (depth + 1) items)
  | object members =>
    bracketed layout depth '\x7b' '\x7d' (writeMembers layout (depth + 1) members)

/-- The items of an array, each written at the same depth. -/
def writeItems (layout : Layout) (depth : Nat) : List Json → List RawText
  | [] => []
  | item :: items => writeAt layout depth item :: writeItems layout depth items

/-- The members of an object, each written at the same depth. -/
def writeMembers (layout : Layout) (depth : Nat) : List (RawText × Json) → List RawText
  | [] => []
  | (key, value) :: members =>
    (stringLiteral key ++ rawOf layout.colon ++ writeAt layout depth value)
      :: writeMembers layout depth members

end

def compact (value : Json) : RawText := writeAt compactLayout 0 value

/-- The value with every item and member on a line of its own. -/
def indented (value : Json) : RawText := writeAt indentedLayout 0 value

end GraphScribe.Json
