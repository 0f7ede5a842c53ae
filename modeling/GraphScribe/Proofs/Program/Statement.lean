import GraphScribe.Program.Source
import GraphScribe.Proofs.Identifier.Shape
import GraphScribe.Proofs.Text.Literal
import Mathlib.Data.List.Basic

/-!
# Statements read back from their lines

The five kinds of line that stand at the margin of a program below its bootstrap fragment, as data,
and a reader of such lines. The reader looks at nothing but the line, and undoes the writer.

## The architecture

* **`readExpression`** — a literal or an identifier as it is spelled; it stops at the first
  character that cannot belong to it, whatever stands behind.
* **`Statement.ofLine?`** — the reader, with one law for each line that is written:
  `ofLine?_functionHeader`, `ofLine?_registration`, `ofLine?_connection`, `ofLine?_construction`
  and `ofLine?_finalization`.
* **`literalValue?`**, **`Endpoint.ofExpression?`** — what an expression stands for.
-/

namespace GraphScribe

/-! ## Expressions -/

/-- Is `c` a letter, a digit or an underscore? -/
def isIdentifierChar (c : Char) : Bool := c.isAlphanum || c == '_'

/-- Reads the identifier at the start of a text, and what follows it. -/
def readIdentifier (t : Text) : Option (Text × Text) :=
  match t.takeWhile isIdentifierChar with
  | [] => none
  | c :: rest => if c.isDigit then none else some (c :: rest, t.dropWhile isIdentifierChar)

/-- Reads the literal or the identifier at the start of a text as it is spelled, and what follows
it. -/
def readExpression (t : Text) : Option (Text × Text) :=
  match readQuoted t with
  | some (_, rest) => some (t.take (t.length - rest.length), rest)
  | none => readIdentifier t

/-- The text that a literal denotes, if the whole of `x` is a literal. -/
def literalValue? (x : Text) : Option Text :=
  match readQuoted x with
  | some (t, []) => some t
  | _ => none

/-- A text that is read as one identifier. -/
def IsIdentifier (x : Text) : Prop :=
  ∃ c rest, x = c :: rest ∧ c.isDigit = false ∧ ∀ d ∈ x, isIdentifierChar d = true

/-- A text that is read as one expression. -/
def IsExpression (x : Text) : Prop := (∃ t, x = quoted t) ∨ IsIdentifier x

theorem literalValue?_quoted (t : Text) : literalValue? (quoted t) = some t := by
  unfold literalValue?
  rw [readQuoted_quoted]

theorem isIdentifierChar_of_isNameChar {c : Char} (h : IsNameChar c) :
    isIdentifierChar c = true := by
  unfold isIdentifierChar
  rw [Bool.or_eq_true, isAlphanum_iff]
  rcases h with hsmall | hdigit | rfl
  · exact Or.inl (Or.inl (Or.inr hsmall))
  · exact Or.inl (Or.inr hdigit)
  · exact Or.inr rfl

theorem IsFunctionName.isIdentifier {f : Text} (h : IsFunctionName f) : IsIdentifier f := by
  obtain ⟨c, rest, rfl, hc, hrest⟩ := h
  refine ⟨c, rest, rfl, ?_, ?_⟩
  · by_contra hdigit
    rw [Bool.not_eq_false, isDigit_iff] at hdigit
    have small : 97 ≤ c.toNat ∧ c.toNat ≤ 122 := toNat_between hc
    have digit : 48 ≤ c.toNat ∧ c.toNat ≤ 57 := toNat_between hdigit
    omega
  · rw [List.forall_mem_cons]
    exact ⟨isIdentifierChar_of_isNameChar (Or.inl hc),
      fun d hd => isIdentifierChar_of_isNameChar (hrest d hd)⟩

theorem isIdentifier_startMarker : IsIdentifier startMarker :=
  ⟨'S', "TART".toList, rfl, by decide, forall_mem_of_all (by decide)⟩

theorem isIdentifier_endMarker : IsIdentifier endMarker :=
  ⟨'E', "ND".toList, rfl, by decide, forall_mem_of_all (by decide)⟩

theorem readIdentifier_append {x : Text} (h : IsIdentifier x) {stop : Char}
    (hstop : isIdentifierChar stop = false) (rest : Text) :
    readIdentifier (x ++ stop :: rest) = some (x, stop :: rest) := by
  obtain ⟨c, tail, rfl, hdigit, hchars⟩ := h
  have front : (c :: tail ++ stop :: rest).takeWhile isIdentifierChar = c :: tail := by
    rw [List.takeWhile_append_of_pos hchars, List.takeWhile_cons, hstop]
    exact List.append_nil _
  have back : (c :: tail ++ stop :: rest).dropWhile isIdentifierChar = stop :: rest := by
    rw [List.dropWhile_append_of_pos hchars, List.dropWhile_cons, hstop]
    rfl
  unfold readIdentifier
  rw [front, back]
  dsimp only
  rw [hdigit]
  rfl

theorem readQuoted_identifier {x : Text} (h : IsIdentifier x) (rest : Text) :
    readQuoted (x ++ rest) = none := by
  obtain ⟨c, tail, rfl, -, hchars⟩ := h
  have hc : isIdentifierChar c = true := hchars c List.mem_cons_self
  unfold readQuoted
  -- a literal starts with a quote, and no quote belongs to an identifier
  refine if_neg ?_
  rintro (rfl | rfl)
  · exact absurd hc (by decide)
  · exact absurd hc (by decide)

/-- An expression is read as it is spelled, up to the first character behind it. -/
theorem readExpression_append {x : Text} (h : IsExpression x) {stop : Char}
    (hstop : isIdentifierChar stop = false) (rest : Text) :
    readExpression (x ++ stop :: rest) = some (x, stop :: rest) := by
  unfold readExpression
  rcases h with ⟨t, rfl⟩ | hident
  · -- what is left over tells how much was spelled
    rw [readQuoted_quoted_append]
    dsimp only
    rw [List.length_append, Nat.add_sub_cancel, List.take_left]
  · rw [readQuoted_identifier hident]
    exact readIdentifier_append hident hstop rest

/-! ## Statements -/

/-- A line at the margin: the header of a function, or a statement of the assembly. Expressions
are kept as they are spelled. -/
inductive Statement where
  | header (function : Text)
  | construction
  | addNode (name function : Text)
  | addEdge (source target : Text)
  | finalization
  deriving DecidableEq

/-- Reads two arguments up to the parenthesis that closes the line. -/
def readArguments (t : Text) : Option (Text × Text) := do
  let (first, t) ← readExpression t
  let t ← ", ".toList.isPrefixOf? t
  let (second, t) ← readExpression t
  if t = [')'] then some (first, second) else none

/-- Reads the header of a function, without the word it starts with. -/
def readHeader (t : Text) : Option Text := do
  let (name, t) ← readIdentifier t
  if t = "(state: State):".toList then some name else none

/-- Reads a line at the margin. -/
def Statement.ofLine? (line : Text) : Option Statement :=
  match "def ".toList.isPrefixOf? line with
  | some rest => (readHeader rest).map .header
  | none =>
    match "graph_builder.add_node(".toList.isPrefixOf? line with
    | some rest => (readArguments rest).map fun (name, function) => .addNode name function
    | none =>
      match "graph_builder.add_edge(".toList.isPrefixOf? line with
      | some rest => (readArguments rest).map fun (source, target) => .addEdge source target
      | none =>
        if line = "graph_builder = StateGraph(State)".toList then some .construction
        else if line = "graph = graph_builder.compile()".toList then some .finalization
        else none

theorem readArguments_append {first second : Text} (hfirst : IsExpression first)
    (hsecond : IsExpression second) :
    readArguments (first ++ ", ".toList ++ second ++ [')']) = some (first, second) := by
  have comma : first ++ ", ".toList ++ second ++ [')'] = first ++ ',' :: ' ' :: (second ++ [')']) := by
    simp
  have behind : ", ".toList.isPrefixOf? (',' :: ' ' :: (second ++ [')'])) = some (second ++ [')']) :=
    List.isPrefixOf?_eq_some_iff_append_eq.2 rfl
  unfold readArguments
  rw [comma, readExpression_append hfirst (by decide), Option.bind_eq_bind, Option.bind_some]
  dsimp only
  rw [behind, Option.bind_eq_bind, Option.bind_some, readExpression_append hsecond (by decide),
    Option.bind_some]
  exact if_pos rfl

theorem isPrefixOf?_append {α : Type} [BEq α] [LawfulBEq α] (start rest : List α) :
    start.isPrefixOf? (start ++ rest) = some rest :=
  List.isPrefixOf?_eq_some_iff_append_eq.2 rfl

theorem ofLine?_functionHeader {f : Text} (h : IsFunctionName f) :
    Statement.ofLine? (functionHeader f) = some (.header f) := by
  have name : readHeader (f ++ "(state: State):".toList) = some f := by
    unfold readHeader
    have here := readIdentifier_append h.isIdentifier (by decide : isIdentifierChar '(' = false)
      "state: State):".toList
    rw [show "(state: State):".toList = '(' :: "state: State):".toList from rfl, here]
    rfl
  unfold functionHeader Statement.ofLine?
  rw [List.append_assoc, isPrefixOf?_append]
  dsimp only
  rw [name]
  rfl

theorem ofLine?_registration (name : Text) {f : Text} (h : IsFunctionName f) :
    Statement.ofLine? (registration name f) = some (.addNode (quoted name) f) := by
  have arguments := readArguments_append (Or.inl ⟨name, rfl⟩) (Or.inr h.isIdentifier)
  have regroup : registration name f
      = "graph_builder.add_node(".toList ++ (quoted name ++ ", ".toList ++ f ++ [')']) := by
    unfold registration
    simp only [List.append_assoc]
  -- the first letters tell the two apart, whatever the name
  have header : "def ".toList.isPrefixOf? (registration name f) = none := rfl
  unfold Statement.ofLine?
  rw [header]
  dsimp only
  rw [regroup, isPrefixOf?_append]
  dsimp only
  rw [arguments]
  rfl

theorem ofLine?_connection {e : PlannedEdge} (hsource : IsExpression e.source)
    (htarget : IsExpression e.target) :
    Statement.ofLine? (connection e) = some (.addEdge e.source e.target) := by
  have arguments := readArguments_append hsource htarget
  have regroup : connection e
      = "graph_builder.add_edge(".toList ++ (e.source ++ ", ".toList ++ e.target ++ [')']) := by
    unfold connection
    simp only [List.append_assoc]
  have header : "def ".toList.isPrefixOf? (connection e) = none := rfl
  -- the two calls differ before their first argument
  have registers : "graph_builder.add_node(".toList.isPrefixOf? (connection e) = none := rfl
  unfold Statement.ofLine?
  rw [header]
  dsimp only
  rw [registers]
  dsimp only
  rw [regroup, isPrefixOf?_append]
  dsimp only
  rw [arguments]
  rfl

theorem ofLine?_construction : Statement.ofLine? construction = some .construction := by decide

theorem ofLine?_finalization : Statement.ofLine? finalization = some .finalization := by decide

/-! ## Ends of edges -/

/-- What an edge of a program begins or ends at. -/
inductive Endpoint where
  | entry
  | exit
  | node (name : Text)
  deriving DecidableEq

/-- What an expression stands for as an end of an edge: the bare markers for themselves, a literal
for the node under the name that it denotes. -/
def Endpoint.ofExpression? (x : Text) : Option Endpoint :=
  if x = "START".toList then some .entry
  else if x = "END".toList then some .exit
  else (literalValue? x).map .node

theorem isExpression_of_isMarker {id : Text} (h : isMarker id = true) : IsExpression id := by
  unfold isMarker at h
  rw [Bool.or_eq_true, beq_iff_eq, beq_iff_eq] at h
  rcases h with rfl | rfl
  · exact Or.inr isIdentifier_startMarker
  · exact Or.inr isIdentifier_endMarker

theorem isMarker_quoted (t : Text) : isMarker (quoted t) = false := by
  by_contra h
  rw [Bool.not_eq_false] at h
  -- a bare marker is not read as a literal at all
  have read := readQuoted_quoted t
  unfold isMarker at h
  rw [Bool.or_eq_true, beq_iff_eq, beq_iff_eq] at h
  rcases h with h | h
  · rw [h, show readQuoted startMarker = none from rfl] at read
    exact absurd read (by simp)
  · rw [h, show readQuoted endMarker = none from rfl] at read
    exact absurd read (by simp)

theorem Endpoint.ofExpression?_quoted (t : Text) :
    Endpoint.ofExpression? (quoted t) = some (.node t) := by
  have bare := isMarker_quoted t
  unfold isMarker at bare
  rw [Bool.or_eq_false_iff, beq_eq_false_iff_ne, beq_eq_false_iff_ne] at bare
  unfold Endpoint.ofExpression?
  rw [if_neg (show quoted t ≠ "START".toList from bare.1),
    if_neg (show quoted t ≠ "END".toList from bare.2), literalValue?_quoted]
  rfl

end GraphScribe
