import GraphScribe.Text.Basic

/-!
# References to variables

A value may refer to a variable by its name in braces after a dollar sign. A colon and a hyphen after
the name introduce the text to use where there is no such variable; without them that text is empty.
What does not have this form stands for itself, a dollar sign alone included.
-/

namespace GraphScribe

/-- A reference to a variable, with the text to use where there is no such variable. -/
structure Reference where
  name : Text
  fallback : Text
  deriving DecidableEq

namespace Reference

/-- Is the character none that ends the name in a reference? -/
def isNameChar (c : Char) : Bool := c != '\x7d' && c != ':'

/-- Is the character none that ends a reference? -/
def isFallbackChar (c : Char) : Bool := c != '\x7d'

/-- Reads a reference after its opening brace: the reference and what follows it. -/
def read? (t : Text) : Option (Reference × Text) :=
  let name := t.takeWhile isNameChar
  match t.dropWhile isNameChar with
  | '\x7d' :: rest => some (⟨name, []⟩, rest)
  | ':' :: '-' :: after =>
    match after.dropWhile isFallbackChar with
    | _ :: rest => some (⟨name, after.takeWhile isFallbackChar⟩, rest)
    | [] => none
  | _ => none

/-- A reference takes up some of the text that it is read from. -/
theorem length_of_read? {t rest : Text} {reference : Reference}
    (h : read? t = some (reference, rest)) : rest.length < t.length := by
  have short : (t.dropWhile isNameChar).length ≤ t.length :=
    (List.dropWhile_suffix isNameChar).length_le
  unfold read? at h
  dsimp only at h
  split at h
  · rename_i found
    simp only [Option.some.injEq, Prod.mk.injEq] at h
    rw [found, List.length_cons, h.2] at short
    omega
  · rename_i after found
    have shorter : (after.dropWhile isFallbackChar).length ≤ after.length :=
      (List.dropWhile_suffix isFallbackChar).length_le
    rw [found, List.length_cons, List.length_cons] at short
    split at h
    · rename_i closed
      simp only [Option.some.injEq, Prod.mk.injEq] at h
      rw [closed, List.length_cons, h.2] at shorter
      omega
    · simp at h
  · simp at h

/-- What a reference stands for, given the variables that there are. -/
def value (valueOf : Text → Option Text) (reference : Reference) : Text :=
  (valueOf reference.name).getD reference.fallback

end Reference

/-- A piece of a value: a character that stands for itself, or a reference. -/
inductive Piece where
  | character (c : Char)
  | reference (r : Reference)
  deriving DecidableEq

namespace Piece

/-- What a piece stands for, given the variables that there are. -/
def value (valueOf : Text → Option Text) : Piece → Text
  | character c => [c]
  | reference r => r.value valueOf

/-- The name that a piece refers to, if it is a reference. -/
def name? : Piece → Option Text
  | character _ => none
  | reference r => some r.name

/-- The pieces of a text, behind those in `done`, last first. References do not overlap, and the
first one counts. -/
def split (done : List Piece) : Text → List Piece
  | [] => done.reverse
  | '$' :: '\x7b' :: t =>
    match h : Reference.read? t with
    | some (r, rest) =>
      have : rest.length < t.length := Reference.length_of_read? h
      split (reference r :: done) rest
    | none => split (character '$' :: done) ('\x7b' :: t)
  | c :: t => split (character c :: done) t
termination_by t => t.length

/-- Without a dollar sign every character stands for itself. -/
theorem split_of_not_mem (done : List Piece) (t : Text) (h : '$' ∉ t) :
    split done t = done.reverse ++ t.map character := by
  induction t generalizing done with
  | nil => simp [split]
  | cons c t ih =>
    simp only [List.mem_cons, not_or] at h
    rw [split, ih _ h.2]
    · simp
    · intro rest start
      exact absurd start.symm h.1

end Piece

def expandReferences (valueOf : Text → Option Text) (t : Text) : Text :=
  (Piece.split [] t).flatMap (Piece.value valueOf)

/-- A text without a dollar sign is left as it is. -/
theorem expandReferences_of_not_mem (valueOf : Text → Option Text) (t : Text) (h : '$' ∉ t) :
    expandReferences valueOf t = t := by
  rw [expandReferences, Piece.split_of_not_mem [] t h, List.reverse_nil, List.nil_append,
    List.flatMap_map]
  simp [Piece.value]

/-- The names that a text refers to, in order. -/
def namesReferredTo (t : Text) : List Text := (Piece.split [] t).filterMap Piece.name?

end GraphScribe
