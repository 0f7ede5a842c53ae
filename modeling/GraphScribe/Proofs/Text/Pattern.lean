import Mathlib.Data.List.Basic
import GraphScribe.Text.Basic

/-!
# Patterns

A pattern is a list of pieces that follow each other in a text. Each piece can take some characters in
one or more ways, of which it prefers some to others; a pattern matches at the start of a text in the
first way for a piece after which the pieces behind it match. Main statements: a match is one of the
ways for each piece (`exists_way_of_match?`), a class that no later piece can start with is taken as a
whole (`match?_most`), and a piece that takes few characters stops at the first place where what is
behind it matches (`match?_fewest_append`).
-/

namespace GraphScribe.Pattern

/-- A piece of a pattern. -/
inductive Piece where
  /-- These characters. -/
  | word (w : Text)
  /-- These characters, or else nothing. -/
  | maybe (w : Text)
  /-- Characters of a class, as many as possible. -/
  | most (p : Char → Bool)
  /-- Characters of a class, as few as possible. -/
  | fewest (p : Char → Bool)
  /-- Nothing, at the end of the text or in front of the line feed that ends it. -/
  | textEnd

/-- The ways to cut a text in two such that the front holds characters of a class only, the shortest
front first. -/
def cuts (p : Char → Bool) : Text → List (Text × Text)
  | [] => [([], [])]
  | c :: rest =>
    ([], c :: rest) :: if p c then (cuts p rest).map fun cut => (c :: cut.1, cut.2) else []

/-- The way to take a word off the start of a text, if there is one. -/
def wordWays (w t : Text) : List (Text × Text) := ((w.isPrefixOf? t).map fun rest => (w, rest)).toList

/-- The ways for a piece at the start of a text, those that it prefers first: what it takes, and what
it leaves. -/
def ways (piece : Piece) (t : Text) : List (Text × Text) :=
  match piece with
  | .word w => wordWays w t
  | .maybe w => wordWays w t ++ [([], t)]
  | .most p => (cuts p t).reverse
  | .fewest p => cuts p t
  | .textEnd => if t = [] ∨ t = ['\n'] then [([], t)] else []

/-- What each piece takes where the pattern matches at the start of a text, if it does. -/
def match? : List Piece → Text → Option (List Text)
  | [], _ => some []
  | piece :: pieces, t => (ways piece t).findSome? fun cut => (match? pieces cut.2).map (cut.1 :: ·)

/-! ## Ways -/

theorem mem_cuts {p : Char → Bool} {t : Text} {cut : Text × Text} (h : cut ∈ cuts p t) :
    cut.1 ++ cut.2 = t ∧ ∀ c ∈ cut.1, p c = true := by
  induction t generalizing cut with
  | nil =>
    rw [List.mem_singleton.1 h]
    exact ⟨rfl, List.forall_mem_nil _⟩
  | cons c rest ih =>
    rcases List.mem_cons.1 h with rfl | h
    · exact ⟨rfl, List.forall_mem_nil _⟩
    · split at h
      · next hc =>
        obtain ⟨shorter, hmem, rfl⟩ := List.mem_map.1 h
        obtain ⟨rfl, hfront⟩ := ih hmem
        exact ⟨rfl, List.forall_mem_cons.2 ⟨hc, hfront⟩⟩
      · exact absurd h List.not_mem_nil

theorem mem_wordWays_iff {w t : Text} {cut : Text × Text} :
    cut ∈ wordWays w t ↔ cut.1 = w ∧ w ++ cut.2 = t := by
  unfold wordWays
  rw [Option.mem_toList, Option.map_eq_some_iff]
  constructor
  · rintro ⟨rest, hstart, rfl⟩
    exact ⟨rfl, List.isPrefixOf?_eq_some_iff_append_eq.1 hstart⟩
  · rintro ⟨rfl, whole⟩
    exact ⟨cut.2, List.isPrefixOf?_eq_some_iff_append_eq.2 whole, rfl⟩

theorem mem_maybeWays_iff {w t : Text} {cut : Text × Text} :
    cut ∈ ways (.maybe w) t ↔ (cut.1 = w ∨ cut.1 = []) ∧ cut.1 ++ cut.2 = t := by
  show cut ∈ wordWays w t ++ [([], t)] ↔ _
  rw [List.mem_append, mem_wordWays_iff, List.mem_singleton, Prod.ext_iff]
  constructor
  · rintro (⟨hword, whole⟩ | ⟨hnone, whole⟩)
    · exact ⟨.inl hword, hword ▸ whole⟩
    · exact ⟨.inr hnone, by rw [hnone, whole]; rfl⟩
  · rintro ⟨hword | hnone, whole⟩
    · exact .inl ⟨hword, hword ▸ whole⟩
    · rw [hnone] at whole
      exact .inr ⟨hnone, whole⟩

theorem mem_textEndWays_iff {t : Text} {cut : Text × Text} :
    cut ∈ ways .textEnd t ↔ (t = [] ∨ t = ['\n']) ∧ cut = ([], t) := by
  unfold ways
  dsimp only
  split
  · next hend => rw [List.mem_singleton, and_iff_right hend]
  · next hend => exact iff_of_false List.not_mem_nil fun h => hend h.1

/-- Whatever a piece takes and leaves is the text. -/
theorem append_of_mem_ways {piece : Piece} {t : Text} {cut : Text × Text} (h : cut ∈ ways piece t) :
    cut.1 ++ cut.2 = t := by
  cases piece with
  | word w =>
    obtain ⟨hword, whole⟩ := mem_wordWays_iff.1 h
    rw [hword, whole]
  | maybe w => exact (mem_maybeWays_iff.1 h).2
  | most p => exact (mem_cuts (List.mem_reverse.1 h)).1
  | fewest p => exact (mem_cuts h).1
  | textEnd =>
    rw [(mem_textEndWays_iff.1 h).2]
    rfl

/-! ## Matches -/

variable {pieces : List Piece}

/-- A match is one of the ways for its first piece, and a match of the others behind it. -/
theorem exists_way_of_match? {piece : Piece} {t : Text} {parts : List Text}
    (h : match? (piece :: pieces) t = some parts) :
    ∃ cut ∈ ways piece t, ∃ parts', match? pieces cut.2 = some parts' ∧ parts = cut.1 :: parts' := by
  obtain ⟨cut, hway, hmap⟩ := List.exists_of_findSome?_eq_some h
  obtain ⟨parts', hrest, heq⟩ := Option.map_eq_some_iff.1 hmap
  exact ⟨cut, hway, parts', hrest, heq.symm⟩

/-- Where the pieces behind it match nowhere, a piece does not match either. -/
theorem match?_eq_none {piece : Piece} {t : Text}
    (h : ∀ rest, rest <:+ t → match? pieces rest = none) : match? (piece :: pieces) t = none := by
  rw [Option.eq_none_iff_forall_ne_some]
  intro parts hparts
  obtain ⟨cut, hway, parts', hrest, -⟩ := exists_way_of_match? hparts
  rw [h cut.2 ⟨cut.1, append_of_mem_ways hway⟩] at hrest
  cases hrest

theorem match?_word_append (w t : Text) :
    match? (.word w :: pieces) (w ++ t) = (match? pieces t).map (w :: ·) := by
  have start : w.isPrefixOf? (w ++ t) = some t := List.isPrefixOf?_eq_some_iff_append_eq.2 rfl
  have here : ways (.word w) (w ++ t) = [(w, t)] := by
    show wordWays w (w ++ t) = _
    unfold wordWays
    rw [start]
    rfl
  rw [match?, here, List.findSome?_singleton]

theorem match?_word_eq_none {w t : Text} (h : ¬ w <+: t) : match? (.word w :: pieces) t = none := by
  rw [Option.eq_none_iff_forall_ne_some]
  intro parts hparts
  obtain ⟨cut, hway, -, -, -⟩ := exists_way_of_match? hparts
  exact h ⟨cut.2, (mem_wordWays_iff.1 hway).2⟩

/-! ### As many as possible -/

/-- The cuts of a text, the longest front first, where what is behind cannot start with a character of
the class. Induction on the text; `view` is what becomes of the characters taken before it. -/
theorem findSome?_reverse_cuts {p : Char → Bool}
    (h : ∀ c rest, p c = true → match? pieces (c :: rest) = none) (view : Text → Text) (t : Text) :
    ((cuts p t).reverse.findSome? fun cut => (match? pieces cut.2).map (view cut.1 :: ·))
      = (match? pieces (t.dropWhile p)).map (view (t.takeWhile p) :: ·) := by
  induction t generalizing view with
  | nil => exact List.findSome?_singleton
  | cons c rest ih =>
    unfold cuts
    cases hc : p c with
    | false =>
      have stays : ¬ p c = true := by rw [hc]; exact Bool.false_ne_true
      rw [if_neg Bool.false_ne_true, List.reverse_singleton, List.findSome?_singleton,
        List.takeWhile_cons_of_neg stays, List.dropWhile_cons_of_neg stays]
    | true =>
      have longer := ih fun taken => view (c :: taken)
      have shortest : (match? pieces (c :: rest)).map (view [] :: ·) = none := by
        rw [h c rest hc]
        rfl
      rw [if_pos rfl, List.reverse_cons, List.findSome?_append, ← List.map_reverse,
        List.findSome?_map, List.findSome?_singleton, shortest, Option.or_none,
        List.takeWhile_cons_of_pos hc, List.dropWhile_cons_of_pos hc]
      exact longer

/-- A class is taken as a whole where the pieces behind it cannot start with a character of it. -/
theorem match?_most {p : Char → Bool} (h : ∀ c rest, p c = true → match? pieces (c :: rest) = none)
    (t : Text) :
    match? (.most p :: pieces) t = (match? pieces (t.dropWhile p)).map (t.takeWhile p :: ·) :=
  findSome?_reverse_cuts h id t

/-! ### As few as possible -/

/-- The cuts of a text, the shortest front first, up to the first one behind which there is a match.
Induction on the front of that cut; `view` is what becomes of the characters taken before it. -/
theorem findSome?_cuts_append {p : Char → Bool} {front back : Text} {parts : List Text}
    (hfront : ∀ c ∈ front, p c = true)
    (first : ∀ tail, tail <:+ front → tail ≠ [] → match? pieces (tail ++ back) = none)
    (hback : match? pieces back = some parts) (view : Text → Text) :
    ((cuts p (front ++ back)).findSome? fun cut => (match? pieces cut.2).map (view cut.1 :: ·))
      = some (view front :: parts) := by
  induction front generalizing view with
  | nil =>
    have here : (match? pieces back).map (view [] :: ·) = some (view [] :: parts) := by
      rw [hback]
      rfl
    cases back with
    | nil =>
      show (([], []) :: [] : List (Text × Text)).findSome? _ = _
      rw [List.findSome?_cons, here]
    | cons c back =>
      show (([], c :: back) :: _ : List (Text × Text)).findSome? _ = _
      rw [List.findSome?_cons, here]
  | cons c front ih =>
    rw [List.forall_mem_cons] at hfront
    have early : (match? pieces (c :: (front ++ back))).map (view [] :: ·) = none := by
      rw [← List.cons_append, first _ (List.suffix_refl _) (List.cons_ne_nil _ _)]
      rfl
    have later := ih hfront.2 (fun tail htail => first tail (htail.trans (List.suffix_cons c front)))
      fun taken => view (c :: taken)
    rw [List.cons_append, cuts, if_pos hfront.1, List.findSome?_cons, early, List.findSome?_map]
    exact later

theorem match?_fewest_append {p : Char → Bool} {front back : Text} {parts : List Text}
    (hfront : ∀ c ∈ front, p c = true)
    (first : ∀ tail, tail <:+ front → tail ≠ [] → match? pieces (tail ++ back) = none)
    (hback : match? pieces back = some parts) :
    match? (.fewest p :: pieces) (front ++ back) = some (front :: parts) :=
  findSome?_cuts_append hfront first hback id

end GraphScribe.Pattern
