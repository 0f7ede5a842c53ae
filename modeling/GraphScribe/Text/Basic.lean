/-!
# Texts

A text is the list of its characters, so that every law about a text is a law about characters in
order. This module holds the operations that all the others share: trimming at both ends,
splitting at one separator, joining, and the substring test. Main statements: joining undoes
splitting (`joinWith_splitOn`), no part holds a separator (`not_mem_of_mem_splitOn`), and the
substring test finds exactly the contiguous parts (`contains_iff_infix`).
-/

namespace GraphScribe

abbrev Text := List Char

/-! ## Trimming

Trimming is stated for any list, because characters, raw code points and whole lines are all
trimmed in the same way. -/

/-- Drops from both ends the elements that satisfy `p`. -/
def trimBy {α : Type} (p : α → Bool) (xs : List α) : List α :=
  ((xs.dropWhile p).reverse.dropWhile p).reverse

@[simp] theorem trimBy_nil {α : Type} (p : α → Bool) : trimBy p [] = [] := rfl

/-- Trimming keeps a contiguous part: what it takes away are a front and a back that satisfy `p`. -/
theorem trimBy_append {α : Type} (p : α → Bool) (xs : List α) :
    xs = xs.takeWhile p ++ trimBy p xs ++ ((xs.dropWhile p).reverse.takeWhile p).reverse := by
  have back : xs.dropWhile p
      = trimBy p xs ++ ((xs.dropWhile p).reverse.takeWhile p).reverse := by
    rw [trimBy, ← List.reverse_append, List.takeWhile_append_dropWhile, List.reverse_reverse]
  rw [List.append_assoc, ← back, List.takeWhile_append_dropWhile]

/-! ## Splitting and joining -/

/-- Puts a character in front of the first of several parts. -/
def consHead (c : Char) : List Text → List Text
  | [] => [[c]]
  | part :: parts => (c :: part) :: parts

/-- The parts of a text between the characters that satisfy `p`; there is always at least one. -/
def splitWhere (p : Char → Bool) : Text → List Text
  | [] => [[]]
  | c :: rest => if p c then [] :: splitWhere p rest else consHead c (splitWhere p rest)

/-- The parts of a text between the occurrences of `separator`. -/
def splitOn (separator : Char) (t : Text) : List Text := splitWhere (· == separator) t

/-- The texts one after the other, with `separator` between neighbours. -/
def joinWith (separator : Text) : List Text → Text
  | [] => []
  | t :: ts => t ++ ts.flatMap fun next => separator ++ next

theorem splitWhere_ne_nil (p : Char → Bool) (t : Text) : splitWhere p t ≠ [] := by
  cases t with
  | nil => simp [splitWhere]
  | cons c rest =>
    rw [splitWhere]
    split
    · simp
    · cases splitWhere p rest <;> simp [consHead]

theorem joinWith_splitOn (separator : Char) (t : Text) :
    joinWith [separator] (splitOn separator t) = t := by
  rw [splitOn]
  induction t with
  | nil => rfl
  | cons c rest ih =>
    rw [splitWhere]
    cases hparts : splitWhere (· == separator) rest with
    | nil => exact absurd hparts (splitWhere_ne_nil _ rest)
    | cons part parts =>
      rw [hparts] at ih
      by_cases h : c = separator
      · rw [if_pos (beq_iff_eq.2 h), ← ih, h]
        rfl
      · rw [if_neg (by simpa using h), consHead, ← ih]
        rfl

/-- No part of a split text holds a character that separates. -/
theorem not_of_mem_splitWhere (p : Char → Bool) (t : Text) :
    ∀ part ∈ splitWhere p t, ∀ c ∈ part, p c = false := by
  induction t with
  | nil => simp [splitWhere]
  | cons d rest ih =>
    intro part hpart c hc
    rw [splitWhere] at hpart
    split at hpart
    · rcases List.mem_cons.1 hpart with rfl | hrest
      · simp at hc
      · exact ih part hrest c hc
    · next hd =>
      cases hparts : splitWhere p rest with
      | nil => exact absurd hparts (splitWhere_ne_nil p rest)
      | cons first others =>
        rw [hparts] at hpart ih
        rcases List.mem_cons.1 hpart with rfl | hothers
        · rcases List.mem_cons.1 hc with rfl | hfirst
          · simpa using hd
          · exact ih first List.mem_cons_self c hfirst
        · exact ih part (List.mem_cons_of_mem _ hothers) c hc

theorem not_mem_of_mem_splitOn (separator : Char) (t : Text) :
    ∀ part ∈ splitOn separator t, separator ∉ part := by
  intro part hpart hmem
  have := not_of_mem_splitWhere _ t part hpart separator hmem
  simp at this

/-! ## Searching -/

def contains (pattern : Text) : Text → Bool
  | [] => pattern.isEmpty
  | c :: rest => pattern.isPrefixOf (c :: rest) || contains pattern rest

/-- The substring test finds exactly the contiguous parts. -/
theorem contains_iff_infix (pattern t : Text) : contains pattern t = true ↔ pattern <:+: t := by
  induction t with
  | nil => rw [contains, List.isEmpty_iff, List.infix_nil]
  | cons c rest ih =>
    rw [contains, Bool.or_eq_true, List.isPrefixOf_iff_prefix, ih, List.infix_cons_iff]

/-- A decimal number, in the digits `0` to `9`, without leading zeros. -/
def decimal (n : Nat) : Text := (toString n).toList

end GraphScribe
