import GraphScribe.Json.Value
import GraphScribe.Text.Hex
import GraphScribe.Encoding.Wide
import GraphScribe.Number.Digit

/-!
# Reading JSON

The reader walks over the code points of a text and stops at the first one that cannot be part of a
value. A stop carries its cause and the rest of the text from the offending place on, so the place
itself is a subtraction. Besides the grammar there are two limits: on the nesting of arrays and
objects, and on the digits of a whole number. The names `NaN`, `Infinity` and `-Infinity` count as
numbers.
-/

namespace GraphScribe.Json

/-! ## Causes -/

/-- What the grammar asks for where a text departs from it. -/
inductive Departure where
  | value
  | memberName
  | colon
  | comma
  | stringEnd
  | plainCharacter
  | escape
  | unicodeEscape
  | textEnd
  | noMark
  deriving DecidableEq

inductive Container where
  | array
  | object
  deriving DecidableEq

inductive Stop where
  | departure (wanted : Departure) (rest : RawText)
  | digits (count : Nat)
  | nesting (container : Container)
  deriving DecidableEq

/-- How deep arrays and objects may be nested. -/
def nestingLimit : Nat := 950

/-- The most digits a whole number may have. -/
def wholeDigitLimit : Nat := 4300

/-! ## Blanks -/

/-- The blanks that JSON allows between tokens. -/
def isGap : Point → Bool
  | .scalar c => c == ' ' || c == '\t' || c == '\n' || c == '\r'
  | .lone _ => false

/-- The text from its first token on. -/
def skipGap (t : RawText) : RawText := t.dropWhile isGap

/-! ## Strings -/

/-- The character that a backslash and one further character stand for. -/
def escaped? (c : Char) : Option Char :=
  if c = '\x22' ∨ c = '\\' ∨ c = '/' then some c
  else if c = 'b' then some '\x08'
  else if c = 'f' then some '\x0c'
  else if c = 'n' then some '\n'
  else if c = 'r' then some '\r'
  else if c = 't' then some '\t'
  else none

/-- The number that four code points denote as hexadecimal digits. -/
def hexUnit? (a b c d : Point) : Option Nat := (RawText.text? [a, b, c, d]).bind hexValue?

/-- A piece of a string: a code point standing for itself, or a unit given by its number. -/
inductive Piece where
  | point (p : Point)
  | unit (n : Nat)
  deriving DecidableEq

/-- Reads the pieces of a string from after its opening quote. `whole` is the text from that quote
on, and `done` holds the pieces before, last first. A unit of four digits is complete only when the
text goes on after it. -/
def piecesFrom (whole : RawText) (done : List Piece) : RawText → Except Stop (List Piece × RawText)
  | [] => .error (.departure .stringEnd whole)
  | .scalar '\\' :: .scalar 'u' :: a :: b :: c :: d :: next :: rest =>
    match hexUnit? a b c d with
    | some n => piecesFrom whole (.unit n :: done) (next :: rest)
    | none =>
      .error (.departure .unicodeEscape (.scalar 'u' :: a :: b :: c :: d :: next :: rest))
  | .scalar '\\' :: .scalar 'u' :: rest => .error (.departure .unicodeEscape (.scalar 'u' :: rest))
  | [.scalar '\\'] => .error (.departure .stringEnd whole)
  | .scalar '\\' :: .lone half :: rest =>
    .error (.departure .escape (.scalar '\\' :: .lone half :: rest))
  | .scalar '\\' :: .scalar e :: rest =>
    match escaped? e with
    | some c => piecesFrom whole (.point (.scalar c) :: done) rest
    | none => .error (.departure .escape (.scalar '\\' :: .scalar e :: rest))
  | .scalar '\x22' :: rest => .ok (done.reverse, rest)
  | .scalar c :: rest =>
    if c.toNat < 0x20 then .error (.departure .plainCharacter (.scalar c :: rest))
    else piecesFrom whole (.point (.scalar c) :: done) rest
  | .lone half :: rest => piecesFrom whole (.point (.lone half) :: done) rest

/-- The code points of some pieces, after the code points `done`, last first. Two halves of a
surrogate pair given one after the other by their numbers make up one character. -/
def joinPieces (done : RawText) : List Piece → RawText
  | [] => done.reverse
  | .point p :: rest => joinPieces (p :: done) rest
  | .unit high :: .unit low :: rest =>
    if isHighHalf high && isLowHalf low then joinPieces (joinHalves high low :: done) rest
    else joinPieces (Point.ofNat high :: done) (.unit low :: rest)
  | .unit n :: rest => joinPieces (Point.ofNat n :: done) rest

/-- Reads a string from its opening quote on. -/
def readString (whole : RawText) : Except Stop (RawText × RawText) := do
  let (pieces, rest) ← piecesFrom whole [] (whole.drop 1)
  return (joinPieces [] pieces, rest)

/-! ## Numbers -/

/-- Is the code point one of the digits `0` to `9`? -/
def isDigitPoint : Point → Bool
  | .scalar c => isDigit c
  | .lone _ => false

/-- The text after an optional minus, with that minus. -/
def splitMinus : RawText → RawText × RawText
  | .scalar '-' :: rest => ([.scalar '-'], rest)
  | t => ([], t)

/-- The whole part of a number, and the text after it: a zero, or digits that start with another
one. -/
def wholePart : RawText → RawText × RawText
  | .scalar '0' :: rest => ([.scalar '0'], rest)
  | t => (t.takeWhile isDigitPoint, t.dropWhile isDigitPoint)

/-- The fraction at the start of a text, if there is one, and the text after it. -/
def fractionPart : RawText → RawText × RawText
  | .scalar '.' :: d :: rest =>
    if isDigitPoint d then
      (.scalar '.' :: d :: rest.takeWhile isDigitPoint, rest.dropWhile isDigitPoint)
    else ([], .scalar '.' :: d :: rest)
  | t => ([], t)

/-- The sign of an exponent, if there is one, and the text after it. -/
def exponentSign : RawText → RawText × RawText
  | .scalar c :: rest => if c = '+' ∨ c = '-' then ([.scalar c], rest) else ([], .scalar c :: rest)
  | t => ([], t)

/-- The exponent at the start of a text, if there is one, and the text after it. -/
def exponentPart : RawText → RawText × RawText
  | .scalar c :: rest =>
    let (sign, afterSign) := exponentSign rest
    let digits := afterSign.takeWhile isDigitPoint
    if (c = 'e' ∨ c = 'E') ∧ digits ≠ [] then
      (.scalar c :: sign ++ digits, afterSign.dropWhile isDigitPoint)
    else ([], .scalar c :: rest)
  | t => ([], t)

def readNumber (t : RawText) : Except Stop (Json × RawText) :=
  let (sign, unsigned) := splitMinus t
  let (whole, afterWhole) := wholePart unsigned
  let (fraction, afterFraction) := fractionPart afterWhole
  let (exponent, rest) := exponentPart afterFraction
  if whole.isEmpty then .error (.departure .value t)
  else if fraction.isEmpty && exponent.isEmpty && wholeDigitLimit < whole.length then
    .error (.digits whole.length)
  else .ok (number (RawText.text (sign ++ whole ++ fraction ++ exponent)), rest)

/-! ## Values -/

/-- The values that are written as a word. -/
def wordValues : List (String × Json) :=
  [("null", null), ("true", bool true), ("false", bool false),
   ("NaN", number "NaN".toList), ("Infinity", number "Infinity".toList),
   ("-Infinity", number "-Infinity".toList)]

/-- The value written as a word at the start of a text, and the text after it. -/
def readWord? (t : RawText) : Option (Json × RawText) :=
  wordValues.findSome? fun (word, value) =>
    let spelled := rawOf word.toList
    if spelled.isPrefixOf t then some (value, t.drop spelled.length) else none

/-- Reads what follows a bracket: entries with commas between them up to the closing bracket. The
entries before come in `done`, last first. Every entry takes up text, so the length of the text is
enough `fuel`. -/
def readEntries {α : Type} (close : Char) (entry : RawText → Except Stop (α × RawText)) :
    Nat → List α → RawText → Except Stop (List α × RawText)
  | 0, _, t => .error (.departure .comma t)
  | fuel + 1, done, t =>
    match entry t with
    | .error stop => .error stop
    | .ok (a, rest) =>
      match skipGap rest with
      | .scalar c :: tail =>
        if c = close then .ok ((a :: done).reverse, tail)
        else if c = ',' then readEntries close entry fuel (a :: done) (skipGap tail)
        else .error (.departure .comma (.scalar c :: tail))
      | t' => .error (.departure .comma t')

/-- Reads what follows an opening bracket, which may be the closing one at once. -/
def readContents {α : Type} (close : Char) (entry : RawText → Except Stop (α × RawText))
    (t : RawText) : Except Stop (List α × RawText) :=
  match skipGap t with
  | .scalar c :: rest =>
    if c = close then .ok ([], rest)
    else readEntries close entry (rest.length + 1) [] (.scalar c :: rest)
  | t' => readEntries close entry (t'.length + 1) [] t'

/-- Reads a member of an object, given the reader of values. -/
def readMember (value : RawText → Except Stop (Json × RawText)) (t : RawText) :
    Except Stop ((RawText × Json) × RawText) :=
  match t with
  | .scalar '\x22' :: _ => do
    let (key, rest) ← readString t
    match skipGap rest with
    | .scalar ':' :: tail =>
      let (v, rest) ← value (skipGap tail)
      return ((key, v), rest)
    | t' => .error (.departure .colon t')
  | _ => .error (.departure .memberName t)

/-- Reads the value at the start of a text, in which arrays and objects may be nested `depth`
deep. -/
def readValue : Nat → RawText → Except Stop (Json × RawText)
  | depth, t =>
    match t with
    | .scalar '\x22' :: _ => do
      let (s, rest) ← readString t
      return (string s, rest)
    | .scalar '[' :: rest =>
      match depth with
      | 0 => .error (.nesting .array)
      | depth + 1 => do
        let (items, rest) ← readContents ']' (readValue depth) rest
        return (array items, rest)
    | .scalar '\x7b' :: rest =>
      match depth with
      | 0 => .error (.nesting .object)
      | depth + 1 => do
        let (members, rest) ← readContents '\x7d' (readMember (readValue depth)) rest
        return (object members, rest)
    | _ =>
      match readWord? t with
      | some (v, rest) => .ok (v, rest)
      | none => readNumber t

/-- Reads a text that is one value with nothing but blanks around it. -/
def readText (t : RawText) : Except Stop Json := do
  let (v, rest) ← readValue nestingLimit (skipGap t)
  match skipGap rest with
  | [] => return v
  | t' => .error (.departure .textEnd t')

/-! ## Places and wording -/

/-- Why a text is no JSON within the limits. A departure from the grammar has a position counted
from zero, and a line and a column counted from one. -/
inductive Fault where
  | departure (wanted : Departure) (position line column : Nat)
  | digits (count : Nat)
  | nesting (container : Container)
  deriving DecidableEq

/-- The fault that a stop in the text `t` is. -/
def Stop.inText (t : RawText) : Stop → Fault
  | departure wanted rest =>
    let before := t.take (t.length - rest.length)
    let line := before.count (.scalar '\n') + 1
    let column := (before.reverse.takeWhile (· != .scalar '\n')).length + 1
    .departure wanted before.length line column
  | digits count => .digits count
  | nesting container => .nesting container

def read (t : RawText) : Except Fault Json := (readText t).mapError (Stop.inText t)

/-- Reads a document as JSON; it must not start with a byte order mark. -/
def readDocument (t : RawText) : Except Fault Json :=
  match t with
  | .scalar '\ufeff' :: _ => .error (.departure .noMark 0 1 1)
  | _ => read t

/-- What the grammar asks for, in words. -/
def Departure.message : Departure → String
  | value => "Expecting value"
  | memberName => "Expecting property name enclosed in double quotes"
  | colon => "Expecting ':' delimiter"
  | comma => "Expecting ',' delimiter"
  | stringEnd => "Unterminated string starting at"
  | plainCharacter => "Invalid control character at"
  | escape => "Invalid \\escape"
  | unicodeEscape => "Invalid \\uXXXX escape"
  | textEnd => "Extra data"
  | noMark => "Unexpected UTF-8 BOM (decode using utf-8-sig)"

def Fault.message : Fault → String
  | departure wanted position line column =>
    s!"{wanted.message}: line {line} column {column} (char {position})"
  | digits count =>
    s!"Exceeds the limit ({wholeDigitLimit} digits) for integer string conversion: value has {count} "
      ++ "digits; use sys.set_int_max_str_digits() to increase the limit"
  | nesting .array =>
    "maximum recursion depth exceeded while decoding a JSON array from a unicode string"
  | nesting .object =>
    "maximum recursion depth exceeded while decoding a JSON object from a unicode string"

end GraphScribe.Json
