import GraphScribe.Failure
import GraphScribe.Text.Blank

/-!
# Replies

What a chat model wrote, reduced to a program. A reply may be wrapped in a Markdown fence: three
backticks, an optional language tag and blanks up to the end of the line, and three backticks at the
very end. What is left has to look like a program that builds and compiles a graph.
-/

namespace GraphScribe.Reply

def fence : Text := ['\x60', '\x60', '\x60']

/-- Is the character one that a language tag may hold? -/
def isTagChar (c : Char) : Bool := c.isAlphanum || c == '_' || c == '+' || c == '-'

/-- The text after a fence's first line, if the text starts with one. -/
def afterOpening? (t : Text) : Option Text :=
  if fence.isPrefixOf t then
    let afterTag := (t.drop fence.length).dropWhile isTagChar
    match afterTag.dropWhile (fun c => c == ' ' || c == '\t') with
    | '\n' :: rest => some rest
    | _ => none
  else none

/-- What stands inside a fence that encloses the whole text. -/
def unfenced? (t : Text) : Option Text :=
  (afterOpening? t).bind fun rest =>
    if fence.isSuffixOf rest then
      some (Text.dropFinalNewline (rest.take (rest.length - fence.length)))
    else none

/-- A text without the blanks around it and without the fence that may enclose it. -/
def content (t : Text) : Text :=
  let trimmed := Text.trim t
  match unfenced? trimmed with
  | some inner => Text.trim inner
  | none => trimmed

/-- Does the text build and compile a graph? -/
def isProgram (t : Text) : Bool :=
  contains "StateGraph".toList t && contains ".compile(".toList t

/-- The program in a reply; an absent reply counts as an empty one. -/
def program (reply : Option Text) : Except GenerationFault Text :=
  let code := content (reply.getD [])
  if code.isEmpty then .error .emptyOutput
  else if !isProgram code then .error .notProgram
  else .ok (code ++ ['\n'])

end GraphScribe.Reply
