import GraphScribe.Text.Folding

/-!
# Slugs

The slug of a name is the name as an identifier in lower case with underscores between its words. A
word ends at any character other than a plain letter or digit, and inside a run of those at a *hump*:
before a capital letter after a small letter or digit, and before the last capital of several when a
small letter follows. A slug never starts with a digit and is never a name that the program needs
for something else.
-/

namespace GraphScribe

/-! ## Reserved names -/

/-- The keywords of the language that programs are written in, as far as they are in lower case. -/
def keywords : List String := [
  "and", "as", "assert", "async", "await", "break", "class", "continue", "def", "del", "elif",
  "else", "except", "finally", "for", "from", "global", "if", "import", "in", "is", "lambda",
  "nonlocal", "not", "or", "pass", "raise", "return", "try", "while", "with", "yield"]

/-- The names that the program binds for itself. -/
def programNames : List String := [
  "graph", "graph_builder", "llm", "state", "add_messages", "init_chat_model"]

/-- The names that are bound in every program, as far as they are in lower case. -/
def builtinNames : List String := [
  "abs", "aiter", "all", "anext", "any", "ascii", "bin", "bool", "breakpoint", "bytearray", "bytes",
  "callable", "chr", "classmethod", "compile", "complex", "copyright", "credits", "delattr", "dict",
  "dir", "divmod", "enumerate", "eval", "exec", "exit", "filter", "float", "format", "frozenset",
  "getattr", "globals", "hasattr", "hash", "help", "hex", "id", "input", "int", "isinstance",
  "issubclass", "iter", "len", "license", "list", "locals", "map", "max", "memoryview", "min",
  "next", "object", "oct", "open", "ord", "pow", "print", "property", "quit", "range", "repr",
  "reversed", "round", "set", "setattr", "slice", "sorted", "staticmethod", "str", "sum", "super",
  "tuple", "type", "vars", "zip"]

/-- Is the name needed for something else? -/
def isReserved (name : Text) : Bool :=
  (keywords ++ programNames ++ builtinNames).any fun reserved => reserved.toList == name

/-! ## Words -/

/-- Does a word end between `c` and `d`, when `next` follows? -/
def isHump (c d : Char) (next : Option Char) : Bool :=
  -- the third case keeps the last of several capitals with the small letters behind it
  d.isUpper && (c.isLower || c.isDigit || (c.isUpper && next.any Char.isLower))

/-- The text with an underscore at every hump. -/
def splitHumps : Text → Text
  | c :: d :: rest =>
    if isHump c d rest.head? then c :: '_' :: splitHumps (d :: rest) else c :: splitHumps (d :: rest)
  | t => t

/-- The runs of letters and digits in a text. -/
def words (t : Text) : List Text := (splitWhere (fun c => !c.isAlphanum) t).filter (· ≠ [])

/-! ## Slugs -/

/-- The words of a name in lower case with underscores between them. -/
def snakeCase (name : Text) : Text :=
  (joinWith ['_'] (words (splitHumps (fold name)))).map Char.toLower

/-- An identifier made from words: never empty, and never with a digit at the start. -/
def asIdentifier (snake : Text) : Text :=
  match snake with
  | [] => "node".toList
  | c :: _ => if c.isDigit then "node_".toList ++ snake else snake

def slug (name : Text) : Text :=
  let identifier := asIdentifier (snakeCase name)
  if isReserved identifier then identifier ++ "_node".toList else identifier

end GraphScribe
