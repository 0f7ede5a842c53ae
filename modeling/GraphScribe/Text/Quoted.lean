import GraphScribe.Text.Hex
import GraphScribe.Text.Printable

/-!
# Quoted texts

The literal that denotes a text on a single line of program source, as Python writes it: in single
quotes, or in double quotes when the text holds a single quote and no double one. The quote in use,
the backslash and every character without a visible form are escaped. `readQuoted` is the reader of
such literals.
-/

namespace GraphScribe

/-- The quote that a literal for `t` is written in. -/
def quoteFor (t : Text) : Char :=
  if t.contains '\x27' && !t.contains '\x22' then '\x22' else '\x27'

/-- How one character is written between two `quote`s. -/
def quotedChar (quote c : Char) : Text :=
  if c = quote ∨ c = '\\' then ['\\', c]
  else if c = '\t' then ['\\', 't']
  else if c = '\n' then ['\\', 'n']
  else if c = '\r' then ['\\', 'r']
  else if isPrintable c then [c]
  else if c.toNat < 0x100 then '\\' :: 'x' :: hexDigits 2 c.toNat
  else if c.toNat < 0x10000 then '\\' :: 'u' :: hexDigits 4 c.toNat
  else '\\' :: 'U' :: hexDigits 8 c.toNat

def quoted (t : Text) : Text :=
  let quote := quoteFor t
  -- the other kind of quote needs no escape
  quote :: t.flatMap (quotedChar quote) ++ [quote]

/-! ## Reading a literal -/

/-- Reads `width` hexadecimal digits as the character they number. -/
def readHexChar (width : Nat) (t : Text) : Option (Char × Text) :=
  let digits := t.take width
  if digits.length = width then
    (hexValue? digits).map fun n => (Char.ofNat n, t.drop width)
  else none

/-- Reads one character of a literal, after its opening quote: `none` where the literal is faulty,
`some none` at the closing quote. -/
def readQuotedChar (quote : Char) : Text → Option (Option Char × Text)
  | [] => none
  | '\\' :: 't' :: rest => some (some '\t', rest)
  | '\\' :: 'n' :: rest => some (some '\n', rest)
  | '\\' :: 'r' :: rest => some (some '\r', rest)
  | '\\' :: 'x' :: rest => (readHexChar 2 rest).map fun (c, r) => (some c, r)
  | '\\' :: 'u' :: rest => (readHexChar 4 rest).map fun (c, r) => (some c, r)
  | '\\' :: 'U' :: rest => (readHexChar 8 rest).map fun (c, r) => (some c, r)
  | '\\' :: c :: rest =>
    if c = '\\' ∨ c = '\x27' ∨ c = '\x22' then some (some c, rest) else none
  | ['\\'] => none
  | c :: rest =>
    if c = quote then some (none, rest)
    else if c = '\n' ∨ c = '\r' then none
    else some (some c, rest)

/-- Reads the characters up to the closing quote; `fuel` bounds their number. -/
def readQuotedFrom (quote : Char) : Nat → Text → Option (Text × Text)
  | 0, _ => none
  | fuel + 1, t =>
    match readQuotedChar quote t with
    | none => none
    | some (none, rest) => some ([], rest)
    | some (some c, rest) => (readQuotedFrom quote fuel rest).map fun (s, r) => (c :: s, r)

/-- Reads the literal at the start of a text: what it denotes, and what follows it. -/
def readQuoted : Text → Option (Text × Text)
  | [] => none
  | quote :: rest =>
    if quote = '\x27' ∨ quote = '\x22' then readQuotedFrom quote (rest.length + 1) rest else none

end GraphScribe
