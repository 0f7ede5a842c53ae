import GraphScribe.Graph.Rejection
import GraphScribe.Json.Value

/-!
# Cleaning the parts of a node

Each part of a node arrives as an arbitrary JSON value and leaves as a clean one, or not at all.
Control characters are taken out of types, labels and code; in an id they are an error, because
taking them out could make two ids one. A part that may be absent counts as absent when nothing is
left of it.
-/

namespace GraphScribe

/-! ## Control characters -/

/-- Is the code point a control character? -/
def isControl (p : Point) : Bool := p.code < 0x20 || (0x7F ≤ p.code && p.code ≤ 0x9F)

/-- Is the code point a control character other than a tab and the plain line ends? -/
def isNonTextControl (p : Point) : Bool :=
  isControl p && p.code != 0x09 && p.code != 0x0A && p.code != 0x0D

/-- A raw text without the blanks at its two ends. -/
def trimRaw (t : RawText) : RawText := trimBy Point.isBlank t

/-- A text for one line: no control characters, no blanks at the ends. -/
def cleanInline (t : RawText) : RawText := trimRaw (t.filter fun p => !isControl p)

/-- A text for several lines: no control characters but tabs and line ends. -/
def cleanMultiline (t : RawText) : RawText := t.filter fun p => !isNonTextControl p

/-! ## The four parts -/

/-- Is the code point one that an id may hold: a plain letter or digit, a hyphen or an underscore? -/
def isIdPoint : Point → Bool
  | .scalar c => c.isAlphanum || c == '-' || c == '_'
  | .lone _ => false

/-- The raw text that a value is. -/
def expectString : Json → Except Reason RawText
  | .string t => .ok t
  | _ => .error .notString

def cleanId (value : Json) : Except Reason Text :=
  match value with
  | .null => .error .idMissing
  | _ => do
    -- nothing is taken out of an id but the blanks around it
    let t := trimRaw (← expectString value)
    if t.isEmpty then .error .idMissing
    else if t.any isControl then .error .idControl
    else if idLimit < t.length then .error .idTooLong
    else if !t.all isIdPoint then .error .idCharacters
    else return RawText.text t

def cleanType (value : Json) : Except Reason RawText :=
  match value with
  | .null => .ok (rawOf stepType)
  | _ => do
    let t := cleanInline (← expectString value)
    -- an empty type is short, so the order of the two tests does not matter
    if nameLimit < t.length then .error .typeTooLong
    else if t.isEmpty then return rawOf stepType
    else return t

/-- A clean label, if anything is left of it. -/
def cleanLabel (value : Json) : Except Reason (Option RawText) :=
  match value with
  | .null => .ok none
  | _ => do
    let t := trimRaw (cleanMultiline (← expectString value))
    if t.isEmpty then return none
    else if nameLimit < t.length then .error .labelTooLong
    else return some t

/-- Clean code, if it holds more than blanks. -/
def cleanCode (value : Json) : Except Reason (Option RawText) :=
  match value with
  | .null => .ok none
  | _ => do
    let t := cleanMultiline (← expectString value)
    -- blank code is dropped at any length
    if t.all Point.isBlank then return none
    else if codeLimit < t.length then .error .codeTooLong
    else return some t

end GraphScribe
