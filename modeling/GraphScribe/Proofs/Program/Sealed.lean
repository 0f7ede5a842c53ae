import GraphScribe.Proofs.Program.Planning
import GraphScribe.Proofs.Text.StringLiteral

/-!
# Names stay inside their literals

The name of a node is whatever its author typed, and it gets into the program in three places: where the
node is registered, where an edge ends at it, and, quoted a second time, where the node says that it is
not implemented. None of them lets a name out of its literal (`names_sealed`): a literal stays on its
line, and a reader of the program finds its end where it was meant to be, and the name in it.
-/

namespace GraphScribe

/-! ## Literals between other text -/

/-- The text has a literal for `raw` between an opening and a closing. The literal stays on its line,
and reading it gives `raw` and stops where the closing begins, whatever stands behind the text. -/
def HoldsLiteral (t opening : Text) (raw : RawText) (closing : Text) : Prop :=
  ∃ literal, t = opening ++ literal ++ closing ∧ (∀ c ∈ literal, Text.isLineBreak c = false) ∧
    ∀ (named : Text → Option Char) (tail : Text),
      readLiteral named (literal ++ closing ++ tail) = some (raw, closing ++ tail)

/-- What is written for some code points is such a literal, as long as the closing does not begin with
a quote. -/
theorem holdsLiteral_quoted (opening : Text) (raw : RawText) {c : Char} (hc : ¬ IsQuote c)
    (rest : Text) : HoldsLiteral (opening ++ raw.quoted ++ c :: rest) opening raw (c :: rest) := by
  refine ⟨raw.quoted, rfl, fun d => RawText.not_isLineBreak_of_mem_quoted, fun named tail => ?_⟩
  rw [List.append_assoc]
  refine RawText.readLiteral_quoted_append named raw ?_
  rintro d hd
  cases hd
  exact hc

theorem not_isQuote {c : Char} (hsingle : c ≠ '\x27') (hdouble : c ≠ '\x22') : ¬ IsQuote c :=
  not_or.2 ⟨hsingle, hdouble⟩

/-! ## Names of any code points -/

namespace RawText

/-- The statement that registers a step's function, for a name of any code points. -/
def registration (name : RawText) (function : Text) : Text :=
  "graph_builder.add_node(".toList ++ name.quoted ++ ", ".toList ++ function ++ [')']

/-- What a node that is not implemented says of itself, for a name of any code points. -/
def notImplementedMessage (name : RawText) : Text :=
  "Node ".toList ++ name.quoted ++ " is not implemented".toList

/-- The statement of a node that is not implemented, for a name of any code points. -/
def notImplementedStatement (name : RawText) : Text :=
  "raise NotImplementedError(".toList ++ GraphScribe.quoted name.notImplementedMessage ++ [')']

theorem registration_rawOf (name function : Text) :
    (rawOf name).registration function = GraphScribe.registration name function := by
  unfold registration GraphScribe.registration
  rw [quoted_rawOf]

theorem notImplementedStatement_rawOf (name : Text) :
    (rawOf name).notImplementedStatement = GraphScribe.notImplementedStatement name := by
  unfold notImplementedStatement GraphScribe.notImplementedStatement
  unfold notImplementedMessage GraphScribe.notImplementedMessage
  rw [quoted_rawOf]

theorem holdsLiteral_registration (name : RawText) (function : Text) :
    HoldsLiteral (name.registration function) "graph_builder.add_node(".toList name
      (", ".toList ++ function ++ [')']) := by
  have comma := holdsLiteral_quoted "graph_builder.add_node(".toList name
    (not_isQuote (by decide) (by decide) : ¬ IsQuote ',') (' ' :: (function ++ [')']))
  have line : name.registration function = "graph_builder.add_node(".toList ++ name.quoted
      ++ ',' :: ' ' :: (function ++ [')']) := by
    unfold registration
    simp
  rw [line]
  exact comma

theorem holdsLiteral_notImplementedMessage (name : RawText) :
    HoldsLiteral name.notImplementedMessage "Node ".toList name " is not implemented".toList :=
  holdsLiteral_quoted _ name (not_isQuote (by decide) (by decide) : ¬ IsQuote ' ') _

theorem holdsLiteral_notImplementedStatement (name : RawText) :
    HoldsLiteral name.notImplementedStatement "raise NotImplementedError(".toList
      (rawOf name.notImplementedMessage) [')'] := by
  unfold notImplementedStatement
  rw [← quoted_rawOf]
  exact holdsLiteral_quoted _ _ (not_isQuote (by decide) (by decide)) []

theorem holdsLiteral_connection_source (name : RawText) (target : Text) :
    HoldsLiteral (connection ⟨name.quoted, target⟩) "graph_builder.add_edge(".toList name
      (", ".toList ++ target ++ [')']) := by
  have comma := holdsLiteral_quoted "graph_builder.add_edge(".toList name
    (not_isQuote (by decide) (by decide) : ¬ IsQuote ',') (' ' :: (target ++ [')']))
  have line : connection ⟨name.quoted, target⟩ = "graph_builder.add_edge(".toList ++ name.quoted
      ++ ',' :: ' ' :: (target ++ [')']) := by
    unfold connection
    simp
  rw [line]
  exact comma

theorem holdsLiteral_connection_target (source : Text) (name : RawText) :
    HoldsLiteral (connection ⟨source, name.quoted⟩)
      ("graph_builder.add_edge(".toList ++ source ++ ", ".toList) name [')'] :=
  holdsLiteral_quoted _ name (not_isQuote (by decide) (by decide)) []

end RawText

/-! ## Names in programs -/

/-- An end of an edge is a bare marker, or the literal for the name of its node. -/
theorem Plan.endExpression_quoted {g : Graph} {place : Place} {id x : Text}
    (h : endExpression g place id = .ok x) :
    isMarker id = true ∧ x = id ∨ ∃ n, g.node? id = some n ∧ x = (rawOf n.name).quoted := by
  cases (endExpression_eq_ok_iff g place id x).1 h with
  | marker hmarker => exact Or.inl ⟨hmarker, rfl⟩
  | node _ found => exact Or.inr ⟨_, found, (RawText.quoted_rawOf _).symm⟩

/-- A name of any code points is sealed in its literal wherever it gets into a program: where a node is
registered, at either end of an edge, and in what a node says that is not implemented. That is a
literal itself, for a text in which the literal for the name stands, so that reading twice gives the
name. Different names have different literals. For the names of graphs these are the statements that
are written. -/
theorem names_sealed :
    (∀ (name : RawText) (function : Text),
      HoldsLiteral (name.registration function) "graph_builder.add_node(".toList name
        (", ".toList ++ function ++ [')'])) ∧
    (∀ (name : RawText) (other : Text),
      HoldsLiteral (connection ⟨name.quoted, other⟩) "graph_builder.add_edge(".toList name
        (", ".toList ++ other ++ [')']) ∧
      HoldsLiteral (connection ⟨other, name.quoted⟩)
        ("graph_builder.add_edge(".toList ++ other ++ ", ".toList) name [')']) ∧
    (∀ name : RawText, ∃ message,
      message = "Node ".toList ++ name.quoted ++ " is not implemented".toList ∧
      HoldsLiteral name.notImplementedStatement "raise NotImplementedError(".toList (rawOf message)
        [')'] ∧
      HoldsLiteral message "Node ".toList name " is not implemented".toList) ∧
    Function.Injective RawText.quoted ∧
    (∀ name function : Text, registration name function = (rawOf name).registration function) ∧
    (∀ name : Text, notImplementedStatement name = (rawOf name).notImplementedStatement) ∧
    ∀ (g : Graph) (place : Place) (id x : Text), Plan.endExpression g place id = .ok x →
      isMarker id = true ∧ x = id ∨ ∃ n, g.node? id = some n ∧ x = (rawOf n.name).quoted := by
  refine ⟨RawText.holdsLiteral_registration, fun name other => ⟨?_, ?_⟩, fun name => ?_,
    RawText.quoted_injective, ?_, ?_, ?_⟩
  · exact name.holdsLiteral_connection_source other
  · exact RawText.holdsLiteral_connection_target other name
  · exact ⟨name.notImplementedMessage, rfl, name.holdsLiteral_notImplementedStatement,
      name.holdsLiteral_notImplementedMessage⟩
  · exact fun name function => (RawText.registration_rawOf name function).symm
  · exact fun name => (RawText.notImplementedStatement_rawOf name).symm
  · exact fun g place id x => Plan.endExpression_quoted

/-- A name with both quotes is written in single ones; the text around that literal has both quotes
again. -/
example : notImplementedStatement "\x22it's\x22".toList
    = "raise NotImplementedError('Node \\'\x22it\\\\\\'s\x22\\' is not implemented')".toList := by
  decide +kernel

end GraphScribe
