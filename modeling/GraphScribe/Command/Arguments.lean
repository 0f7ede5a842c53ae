import GraphScribe.Command.Usage
import GraphScribe.Settings.Basic

/-!
# Command line arguments

The arguments are first told apart, each on its own: a flag, a value, or the separator after which
everything is a value. Then they are taken one after the other. A flag may be shortened as far as it
stays unambiguous, and may carry its value after an equals sign. The first value is the graph file;
values beyond it and unknown flags are reported together at the end.
-/

namespace GraphScribe.Command

/-! ## Flags -/

inductive Flag where
  | help
  | target
  | out
  | print
  | canonical
  | strict
  deriving DecidableEq

/-- The spellings of the flags, in their order. -/
def spellings : List (String × Flag) := [
  ("-h", .help), ("--help", .help), ("--target", .target), ("--out", .out), ("--print", .print),
  ("--canonical", .canonical), ("--strict", .strict)]

/-- The name of a flag in a message. -/
def Flag.name : Flag → String
  | help => "-h/--help"
  | target => "--target"
  | out => "--out"
  | print => "--print"
  | canonical => "--canonical"
  | strict => "--strict"

def Flag.takesValue : Flag → Bool
  | target | out => true
  | _ => false

def flag? (spelling : Text) : Option Flag :=
  (spellings.find? fun s => s.1.toList == spelling).map Prod.snd

/-! ## Telling arguments apart -/

/-- A single argument. A flag keeps the value it carries, and whether it is spelled with one hyphen
only. -/
inductive Token where
  | value (t : Text)
  | separator
  | flag (flag : Flag) (short : Bool) (carried : Option Text)
  | unknown (t : Text)
  deriving DecidableEq

/-- Why the arguments are not accepted, or that help is asked for. -/
inductive Refusal where
  | help
  | ambiguous (given : Text) (candidates : List String)
  | invalidTarget (given : Text)
  | valueMissing (flag : Flag)
  | valueIgnored (flag : Flag) (given : Text)
  | fileMissing
  | unrecognized (given : List Text)
  deriving DecidableEq

/-- The part of an argument before its first equals sign, and the part after it if there is one. -/
def splitEquals (t : Text) : Text × Option Text :=
  let name := t.takeWhile (· != '=')
  match t.drop name.length with
  | _ :: value => (name, some value)
  | [] => (name, none)

/-- Is the text a negative number: a hyphen and digits, with at most one point that has digits
after it? A single line feed may follow. -/
def isNegativeNumber (t : Text) : Bool :=
  let isAnyDigit (c : Char) : Bool := (digitValue? c).isSome
  let isDigits (s : Text) : Bool := !s.isEmpty && s.all isAnyDigit
  match Text.dropFinalNewline t with
  | '-' :: rest =>
    match rest.dropWhile isAnyDigit with
    | '.' :: fraction => isDigits fraction
    | _ => isDigits rest
  | _ => false

/-- What an argument with hyphens that spells no flag exactly is: a shortened flag, a value, or an
unknown flag. -/
def shortened (t : Text) : Except Refusal Token :=
  let candidates : List (String × Token) :=
    if "--".toList.isPrefixOf t then
      let (name, carried) := splitEquals t
      (spellings.filter fun s => name.isPrefixOf s.1.toList).map fun s =>
        (s.1, .flag s.2 false carried)
    else
      (spellings.filter fun s => s.1.toList == t.take 2).map fun s =>
        (s.1, .flag s.2 true (some (t.drop 2)))
  match candidates with
  | [(_, token)] => .ok token
  | _ :: _ :: _ => .error (.ambiguous t (candidates.map Prod.fst))
  | [] =>
    if isNegativeNumber t || t.contains ' ' then .ok (.value t) else .ok (.unknown t)

/-- What a single argument before the separator is. -/
def classify (t : Text) : Except Refusal Token :=
  match t with
  | '-' :: second :: _ =>
    let short := second != '-'
    match flag? t with
    | some f => .ok (.flag f short none)
    | none =>
      match splitEquals t with
      | (name, some value) =>
        match flag? name with
        | some f => .ok (.flag f short (some value))
        | none => shortened t
      | _ => shortened t
  | _ => .ok (.value t)

/-- The argument after which all arguments are values. -/
def separator : Text := "--".toList

/-- What the arguments are. After the separator all of them are values. -/
def tokens : List Text → Except Refusal (List Token)
  | [] => .ok []
  | t :: rest =>
    if t = separator then .ok (.separator :: rest.map .value)
    else do
      let token ← classify t
      let others ← tokens rest
      return token :: others

/-! ## Taking arguments -/

/-- What a run of the command is asked to do. The target and the output directory are absent when
their flags carry the separator in place of a value. -/
structure Options where
  file : Text
  target : Option Strategy
  out : Option Text
  print : Bool
  canonical : Bool
  strict : Bool
  deriving DecidableEq

structure Taken where
  file : Option Text
  extra : List Text
  target : Option Strategy
  out : Option Text
  print : Bool
  canonical : Bool
  strict : Bool

def Taken.none : Taken := 
  ⟨Option.none, [], some .compiler, some "compiled".toList, false, false, false⟩

/-- Takes a flag with its value. The separator is no value: with it the flag is left without one. -/
def Taken.withValue (taken : Taken) (flag : Flag) (value : Text) : Except Refusal Taken :=
  match flag with
  | .target =>
    if value = separator then .ok { taken with target := Option.none }
    else match Strategy.ofName? value with
      | some strategy => .ok { taken with target := some strategy }
      | Option.none => .error (.invalidTarget value)
  | .out => .ok { taken with out := if value = separator then Option.none else some value }
  | other => .error (.valueIgnored other value)

/-- Takes a flag that has no value. -/
def Taken.switched (taken : Taken) (flag : Flag) : Except Refusal Taken :=
  match flag with
  | .help => .error .help
  | .print => .ok { taken with print := true }
  | .canonical => .ok { taken with canonical := true }
  | .strict => .ok { taken with strict := true }
  | other => .error (.valueMissing other)

/-- Takes a flag that is spelled with one hyphen and has further letters behind it: each of them has
to be a flag of its own. -/
def bundled (flag : Flag) : Text → Refusal
  | [] => .valueIgnored flag []
  | c :: rest =>
    match flag? ['-', c] with
    | some next => if rest.isEmpty then .help else bundled next rest
    | Option.none => .valueIgnored flag (c :: rest)

/-- Takes a value: the graph file if there is none yet. -/
def Taken.value (taken : Taken) (t : Text) : Taken :=
  match taken.file with
  | Option.none => { taken with file := some t }
  | some _ => { taken with extra := taken.extra ++ [t] }

/-- Takes the arguments one after the other. A separator goes with the graph file next to it. -/
def take (taken : Taken) : List Token → Except Refusal Taken
  | [] => .ok taken
  | .flag f short carried :: rest =>
    match carried with
    | some value =>
      if f.takesValue then do take (← taken.withValue f value) rest
      else if short then .error (bundled f value)
      else .error (.valueIgnored f value)
    | Option.none =>
      if f.takesValue then
        match rest with
        | .value t :: rest => do take (← taken.withValue f t) rest
        | _ => .error (.valueMissing f)
      else do take (← taken.switched f) rest
  | .unknown t :: rest => take { taken with extra := taken.extra ++ [t] } rest
  | .value t :: .separator :: rest =>
    match taken.file with
    | Option.none => take (taken.value t) rest
    | some _ => take { taken with extra := taken.extra ++ [t, separator] } rest
  | .value t :: rest => take (taken.value t) rest
  | .separator :: .value t :: rest =>
    match taken.file with
    | Option.none => take (taken.value t) rest
    | some _ => take { taken with extra := taken.extra ++ [separator, t] } rest
  | .separator :: rest => take { taken with extra := taken.extra ++ [separator] } rest

def parse (arguments : List Text) : Except Refusal Options := do
  let taken ← take Taken.none (← tokens arguments)
  match taken.file with
  | Option.none => .error .fileMissing
  | some file =>
    if taken.extra.isEmpty then
      return ⟨file, taken.target, taken.out, taken.print, taken.canonical, taken.strict⟩
    else .error (.unrecognized taken.extra)

/-! ## Wording -/

def Refusal.message : Refusal → String
  | help => ""
  | ambiguous given candidates =>
    let matching := ", ".intercalate candidates
    s!"ambiguous option: {String.ofList given} could match {matching}"
  | invalidTarget given =>
    let names := ", ".intercalate (strategyNames.map fun n => String.ofList (quoted n.toList))
    s!"argument --target: invalid choice: {String.ofList (quoted given)} (choose from {names})"
  | valueMissing flag => s!"argument {flag.name}: expected one argument"
  | valueIgnored flag given =>
    s!"argument {flag.name}: ignored explicit argument {String.ofList (quoted given)}"
  | fileMissing => "the following arguments are required: graph.json"
  | unrecognized given =>
    let listed := String.ofList (joinWith " ".toList given)
    s!"unrecognized arguments: {listed}"

end GraphScribe.Command
