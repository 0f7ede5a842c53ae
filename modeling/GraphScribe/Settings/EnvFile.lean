import GraphScribe.Failure
import GraphScribe.Settings.Basic
import GraphScribe.Settings.Reference

/-!
# Settings from a file

A file of entries, one a line: a name, an equals sign and a value, which may be quoted and then go on
over several lines. Comments, blank lines and the word `export` in front of a name are skipped. The
last entry of a name decides: a name without a value takes back what the lines before it assigned. A
faulty line is no entry and does not harm the lines after it. A value may refer to variables of the
environment and of the lines before it, where those of the environment come first. A variable that is
in the environment already keeps its value. A variable that no environment can hold makes the whole
file unusable.
-/

namespace GraphScribe.EnvFile

/-- What a line of the file says: the name of a variable, and the value that it is to have, if any. -/
structure Entry where
  name : Text
  value : Option Text
  deriving DecidableEq

/-- Is the character a blank inside a line? -/
def isLineBlank (c : Char) : Bool := isBlankChar c && c != '\n'

/-- Is the character one that ends a line? -/
def isLineEnd (c : Char) : Bool := c == '\n'

/-- The text after the word `export` and the blanks that follow it, if it starts with them. -/
def skipExport (t : Text) : Text :=
  let word := "export".toList
  let rest := t.drop word.length
  if word.isPrefixOf t && (rest.head?.any isLineBlank) then rest.dropWhile isLineBlank else t

/-- Reads up to the closing quote; a backslash keeps the character after it from closing. The result
has its backslashes still in place; `done` holds what has been read, last first. -/
def quotedPart? (quote : Char) (done : Text) : Text → Option (Text × Text)
  | [] => none
  | '\\' :: c :: rest => quotedPart? quote (c :: '\\' :: done) rest
  | c :: rest =>
    if c = quote then some (done.reverse, rest) else quotedPart? quote (c :: done) rest

/-- What a backslash and a character stand for between quotes of the given kind, if anything. -/
def escape? (quote c : Char) : Option Char :=
  if c = '\\' ∨ c = '\x27' then some c
  else if quote = '\x27' then none
  else if c = '\x22' then some c
  else if c = 'a' then some '\x07'
  else if c = 'b' then some '\x08'
  else if c = 'f' then some '\x0c'
  else if c = 'n' then some '\n'
  else if c = 'r' then some '\r'
  else if c = 't' then some '\t'
  else if c = 'v' then some '\x0b'
  else none

/-- The text with its escapes resolved, in front of which stands `done`, last first. -/
def unescape (quote : Char) (done : Text) : Text → Text
  | '\\' :: c :: rest =>
    match escape? quote c with
    | some d => unescape quote (d :: done) rest
    | none => unescape quote (c :: '\\' :: done) rest
  | c :: rest => unescape quote (c :: done) rest
  | [] => done.reverse

/-- A text without the comment that a blank and a number sign begin; `done` holds the text before,
last first. -/
def withoutComment (done : Text) : Text → Text
  | [] => done.reverse
  | [c] => (c :: done).reverse
  | c :: d :: rest =>
    if isBlankChar c && d == '#' then done.reverse else withoutComment (c :: done) (d :: rest)

/-! ## Lines

Each reader gives what it has read and what follows it, or, at a fault, what follows the part that
it has read so far. -/

/-- Reads a value between quotes, after the opening one at the start of `t`. -/
def readQuotedValue (quote : Char) (t rest : Text) : Except Text (Text × Text) :=
  match quotedPart? quote [] rest with
  | some (part, after) => .ok (unescape quote [] part, after)
  | none => .error t

/-- Reads a value, from the equals sign on. A number sign begins a comment only after a blank. -/
def readValue (t : Text) : Except Text (Text × Text) :=
  match t.dropWhile isLineBlank with
  | '\x27' :: rest => readQuotedValue '\x27' t rest
  | '\x22' :: rest => readQuotedValue '\x22' t rest
  | _ =>
    let part := t.takeWhile fun c => !isLineEnd c
    .ok (Text.trim (withoutComment [] part), t.drop part.length)

/-- Reads a name. The name is absent on a line that holds a comment only. -/
def readName (t : Text) : Except Text (Option Text × Text) :=
  match t with
  | '#' :: _ => .ok (none, t)
  | '\x27' :: rest =>
    let name := rest.takeWhile (· != '\x27')
    match rest.drop name.length with
    | _ :: after => if name.isEmpty then .error t else .ok (some name, after)
    | [] => .error t
  | _ =>
    let name := t.takeWhile fun c => c != '=' && c != '#' && !isBlankChar c
    if name.isEmpty then .error t else .ok (some name, t.drop name.length)

/-- The text after a comment and the end of its line, if nothing else stands before that end. -/
def finishLine (t : Text) : Except Text Text :=
  let gap := t.dropWhile isLineBlank
  let rest := match gap with
    | '#' :: _ => gap.dropWhile fun c => !isLineEnd c
    | _ => gap
  match rest with
  | [] => .ok []
  | c :: after => if isLineEnd c then .ok after else .error rest

/-- Reads one line: its entry, unless it holds a comment only. -/
def readEntry (t : Text) : Except Text (Option Entry × Text) := do
  let (name, afterName) ← readName (skipExport t)
  match afterName.dropWhile isLineBlank with
  | '=' :: rest =>
    let (value, afterValue) ← readValue rest
    return (name.map fun name => ⟨name, some value⟩, ← finishLine afterValue)
  | rest => return (name.map fun name => ⟨name, none⟩, ← finishLine rest)

/-- The entries in a text. Where a line turns out to be faulty, all up to the next line end is left
out. `fuel` bounds the number of lines. -/
def entriesFrom : Nat → Text → List Entry
  | 0, _ => []
  | fuel + 1, t =>
    match t.dropWhile isBlankChar with
    | [] => []
    | start =>
      match readEntry start with
      | .ok (some entry, rest) => entry :: entriesFrom fuel rest
      | .ok (none, rest) => entriesFrom fuel rest
      | .error rest => entriesFrom fuel ((rest.dropWhile fun c => !isLineEnd c).drop 1)

/-- A text without the byte order mark that may stand at its start. -/
def withoutMark : Text → Text
  | '\ufeff' :: rest => rest
  | t => t

/-- The entries in a text, in order. A line ends at any of the three customary line ends. -/
def entries (t : Text) : List Entry :=
  let rows := RawText.text (RawText.unifyLineEnds (rawOf (withoutMark t)))
  entriesFrom (rows.length + 1) rows

/-! ## References -/

/-- The variable of a name, as an entry sees it that comes after the given ones, last first: the one
in the environment, or what the last entry of the name gives, which is empty if it gives no value. -/
def visible? (env : Environment) (earlier : List Entry) (name : Text) : Option Text :=
  match env.lookup name with
  | some value => some value
  | none => (earlier.find? fun entry => entry.name == name).map fun entry => entry.value.getD []

/-- An entry with the references in its value resolved. -/
def resolve (env : Environment) (earlier : List Entry) (entry : Entry) : Entry :=
  { entry with value := entry.value.map (expandReferences (visible? env earlier)) }

/-- Entries with their references resolved, each after those before it. -/
def resolved (env : Environment) (given : List Entry) : List Entry :=
  (given.foldl (fun earlier entry => resolve env earlier entry :: earlier) []).reverse

/-- The names of the variables that the values in a file refer to. -/
def referredNames (file : Text) : List Text :=
  ((entries file).filterMap Entry.value).flatMap namesReferredTo

/-! ## Variables -/

/-- The variables after one more entry. A value goes before the earlier ones of its name; a name
alone takes them away. -/
def record (env : Environment) (entry : Entry) : Environment :=
  match entry.value with
  | some value => (entry.name, value) :: env
  | none => env.filter fun pair => pair.1 != entry.name

/-- The variables that a file assigns beside an environment. -/
def assigned (env : Environment) (file : Text) : Environment :=
  (resolved env (entries file)).foldl record []

/-- Why an environment cannot hold a variable, if it cannot. -/
def fault? (name value : Text) : Option VariableFault :=
  if name.contains '\x00' || value.contains '\x00' then some .nullCharacter
  else if name.contains '=' then some .equalsSignInName
  else none

/-- The fault of the first variable that comes to an environment and cannot be held there. A value
that a later line replaces does not come to it. -/
def firstFault? (env added : Environment) : Option VariableFault :=
  added.reverse.findSome? fun pair => do
    let fault ← fault? pair.1 pair.2
    if (env.lookup pair.1).isNone && added.lookup pair.1 == some pair.2 then some fault else none

/-- The environment with the variables that a file assigns and that are not there yet. -/
def extend (env : Environment) (file : Text) : Except VariableFault Environment :=
  let added := assigned env file
  match firstFault? env added with
  | some fault => .error fault
  | none => .ok (env ++ added)

/-- The settings that an environment and the file beside it, if there is one, ask for. -/
def settings (env : Environment) (file : Option Text) : Except Failure Settings := do
  let full ← match file with
    | some t => (extend env t).mapError .unstorable
    | none => .ok env
  (Settings.ofEnvironment full).mapError .misconfigured

/-! ## The last entry decides -/

/-- After an entry the variable that it names has the value that it gives, or none. -/
theorem lookup_record_self (env : Environment) (entry : Entry) :
    (record env entry).lookup entry.name = entry.value := by
  unfold record
  split
  · rename_i value given
    simp [given]
  · rename_i given
    rw [given, List.lookup_eq_none_iff]
    intro pair mem
    have differs : pair.1 ≠ entry.name := by simpa using (List.mem_filter.mp mem).2
    exact bne_iff_ne.mpr differs.symm

end GraphScribe.EnvFile
