import GraphScribe.Proofs.Program.Margin
import Mathlib.Data.List.Forall2

/-!
# Code at column zero

A fragment whose line ends are all line feeds is brought to column zero row by row: the margin is
taken off every row, a row of nothing but indentation becomes empty, and no other character is
touched. So any two rows of it stand to each other as they did before.

## The architecture

* **`margin_isLongestStart`** — the margin is the longest common start of the indentations.
* **`splitOn_dedent`** — the rows of a dedented text are those of the text, each without its share.
* **`trimBy_lines`** — but for the blank ones at the ends, the lines of a text are its parts between
  line breaks, and its rows where every line break is a line feed.
* **`fragmentLines_eq_map`** — what is left of a fragment, row by row.
* **`exists_dedentedLines`** — the same in words that name neither the margin nor the trimming.
-/

namespace GraphScribe

/-! ## The margin -/

/-- `m` is the longest text that all of `ts` start with. -/
def IsLongestStart (m : Text) (ts : List Text) : Prop :=
  (∀ t ∈ ts, m <+: t) ∧ ∀ s : Text, (∀ t ∈ ts, s <+: t) → s <+: m

namespace Text

theorem prefix_commonStart {s t u : Text} (ht : s <+: t) (hu : s <+: u) :
    s <+: commonStart t u := by
  induction s generalizing t u with
  | nil => exact List.nil_prefix
  | cons c s ih =>
    obtain ⟨t', rfl⟩ := ht
    obtain ⟨u', rfl⟩ := hu
    have start : commonStart (c :: s ++ t') (c :: s ++ u') = c :: commonStart (s ++ t') (s ++ u') :=
      if_pos rfl
    rw [start, List.prefix_cons_inj]
    exact ih (List.prefix_append s t') (List.prefix_append s u')

theorem margin_cons (row next : Text) (rows : List Text) :
    margin (row :: next :: rows) = commonStart (indentation row) (margin (next :: rows)) :=
  margin.eq_3 _ _ (by simp)

/-- The margin of some rows is the longest common start of their indentations. -/
theorem margin_isLongestStart {rows : List Text} (hne : rows ≠ []) :
    IsLongestStart (margin rows) (rows.map indentation) := by
  induction rows with
  | nil => exact absurd rfl hne
  | cons row rows ih =>
    cases rows with
    | nil =>
      refine ⟨?_, fun s hs => hs _ List.mem_cons_self⟩
      rw [List.map_singleton, List.forall_mem_singleton]
      exact List.prefix_rfl
    | cons next rows =>
      obtain ⟨common, longest⟩ := ih (by simp)
      rw [margin_cons, List.map_cons]
      constructor
      · rw [List.forall_mem_cons]
        exact ⟨commonStart_isPrefix_left _ _,
          fun t ht => (commonStart_isPrefix_right _ _).trans (common t ht)⟩
      · intro s hs
        rw [List.forall_mem_cons] at hs
        exact prefix_commonStart hs.1 (longest s hs.2)

/-! ## Rows -/

/-- The rows of a text that hold more than indentation. -/
def solidRows (t : Text) : List Text := (splitOn '\n' t).filter fun row => !isHollow row

/-- A row without its share of a margin, which for a hollow row is all of it. -/
def dedentRow (m row : Text) : Text := if isHollow row then [] else row.drop m.length

theorem dedent_eq (t : Text) :
    dedent t = joinWith ['\n'] ((splitOn '\n' t).map (dedentRow (margin (solidRows t)))) := rfl

/-- What a row loses to a margin: all of a hollow one, and else the margin. -/
def share (m row : Text) : Text := if isHollow row then row else m

theorem dedentRow_eq_drop (m row : Text) : dedentRow m row = row.drop (share m row).length := by
  unfold dedentRow share
  split
  · exact List.drop_length.symm
  · rfl

theorem share_isPrefix {t row : Text} (hrow : row ∈ splitOn '\n' t) :
    share (margin (solidRows t)) row <+: row := by
  unfold share
  split
  · exact List.prefix_rfl
  · next hsolid => exact margin_isPrefix _ row (List.mem_filter.2 ⟨hrow, by simpa using hsolid⟩)

/-- A row is what it loses and what is left of it. -/
theorem share_append_dedentRow {t row : Text} (hrow : row ∈ splitOn '\n' t) :
    share (margin (solidRows t)) row ++ dedentRow (margin (solidRows t)) row = row := by
  rw [dedentRow_eq_drop]
  exact List.prefix_iff_eq_append.1 (share_isPrefix hrow)

theorem dropWhile_isIndent_eq_drop (row : Text) :
    row.dropWhile isIndent = row.drop (indentation row).length := by
  have split := @List.drop_left _ (row.takeWhile isIndent) (row.dropWhile isIndent)
  rw [List.takeWhile_append_dropWhile] at split
  exact split.symm

/-! ## Blank rows -/

theorem isBlank_of_isIndent {t : Text} (h : ∀ c ∈ t, isIndent c = true) : isBlank t = true := by
  have blank : ∀ c, isIndent c = true → isBlankChar c = true := by
    intro c hc
    unfold isIndent at hc
    rw [Bool.or_eq_true, beq_iff_eq, beq_iff_eq] at hc
    rcases hc with rfl | rfl
    · rfl
    · rfl
  exact List.all_eq_true.2 fun c hc => blank c (h c hc)

theorem isBlank_of_isHollow {row : Text} (h : isHollow row = true) : isBlank row = true :=
  isBlank_of_isIndent (List.all_eq_true.1 h)

theorem isIndent_of_mem_indentation {row : Text} {c : Char} (h : c ∈ indentation row) :
    isIndent c = true :=
  List.mem_takeWhile_imp h

theorem isIndent_of_mem_margin {rows : List Text} {c : Char} (h : c ∈ margin rows) :
    isIndent c = true := by
  cases rows with
  | nil => exact absurd h List.not_mem_nil
  | cons row rows =>
    have start : margin (row :: rows) <+: indentation row :=
      (margin_isLongestStart (by simp)).1 _ List.mem_cons_self
    exact isIndent_of_mem_indentation (start.subset h)

theorem isBlank_margin (rows : List Text) : isBlank (margin rows) = true :=
  isBlank_of_isIndent fun _ => isIndent_of_mem_margin

theorem isBlank_share {rows : List Text} {row : Text} : isBlank (share (margin rows) row) = true := by
  unfold share
  split
  · next hhollow => exact isBlank_of_isHollow hhollow
  · exact isBlank_margin rows

theorem isBlank_indentation (row : Text) : isBlank (indentation row) = true :=
  isBlank_of_isIndent fun _ => isIndent_of_mem_indentation

/-- A row that loses a blank start is as blank as before. -/
theorem isBlank_drop {s row : Text} (hs : s <+: row) (hblank : isBlank s = true) :
    isBlank (row.drop s.length) = isBlank row := by
  obtain ⟨rest, rfl⟩ := hs
  have parts : isBlank (s ++ rest) = (isBlank s && isBlank rest) := List.all_append
  rw [List.drop_left, parts, hblank, Bool.true_and]

end Text

/-! ## The rows of a dedented text -/

theorem not_mem_dedentRow {m row : Text} {c : Char} (h : c ∉ row) : c ∉ Text.dedentRow m row := by
  rw [Text.dedentRow_eq_drop]
  exact fun hc => h (List.mem_of_mem_drop hc)

/-- The rows of a dedented text are those of the text, each without its share of the margin. -/
theorem splitOn_dedent (t : Text) : splitOn '\n' (Text.dedent t)
    = (splitOn '\n' t).map (Text.dedentRow (Text.margin (Text.solidRows t))) := by
  rw [Text.dedent_eq]
  refine splitOn_joinWith ?_ ?_
  · rw [Ne, List.map_eq_nil_iff]
    exact splitWhere_ne_nil _ t
  · rw [List.forall_mem_map]
    exact fun row hrow => not_mem_dedentRow (not_mem_of_mem_splitOn '\n' t row hrow)

namespace Text

/-- A text of one row loses all of its indentation. -/
theorem dedent_of_not_mem {t : Text} (h : '\n' ∉ t) : dedent t = t.dropWhile isIndent := by
  have single : ∀ row : Text, joinWith ['\n'] [row] = row := List.append_nil
  have alone : dedentRow (margin (solidRows t)) t = t.dropWhile isIndent := by
    unfold dedentRow solidRows
    rw [splitOn_of_not_mem h, List.filter_singleton]
    by_cases hhollow : isHollow t = true
    · rw [if_pos hhollow, List.dropWhile_eq_nil_iff.2 (List.all_eq_true.1 hhollow)]
    · rw [if_neg hhollow, dropWhile_isIndent_eq_drop, Bool.eq_false_iff.2 hhollow]
      rfl
  rw [dedent_eq, splitOn_of_not_mem h, List.map_singleton, single, alone]

end Text

namespace Text

/-! ## Lines that are parts -/

/-- Without carriage returns every line break stands alone. What opens behind the last one is a part,
and a line only if something stands in it. -/
theorem splitWhere_isLineBreak_cases {t : Text} (h : '\r' ∉ t) :
    splitWhere isLineBreak t = lines t ∨ splitWhere isLineBreak t = lines t ++ [[]] := by
  induction t with
  | nil => exact Or.inr rfl
  | cons c rest ih =>
    rw [List.mem_cons, not_or] at h
    obtain ⟨hreturn, hrest⟩ := h
    rw [splitWhere, lines.eq_3 _ _ fun _ heq _ => hreturn heq.symm]
    by_cases hbreak : isLineBreak c = true
    · rw [if_pos hbreak, if_pos hbreak]
      exact (ih hrest).imp (congrArg ([] :: ·)) (congrArg ([] :: ·))
    · rw [if_neg hbreak, if_neg hbreak]
      rcases ih hrest with heq | heq
      · exact Or.inl (congrArg (consHead c) heq)
      · rw [heq]
        cases lines rest with
        | nil => exact Or.inl rfl
        | cons line ls => exact Or.inr rfl

theorem trimBy_lines {t : Text} (h : '\r' ∉ t) :
    trimBy isBlank (lines t) = trimBy isBlank (splitWhere isLineBreak t) := by
  rcases splitWhere_isLineBreak_cases h with heq | heq
  · rw [heq]
  · have blank : ∀ line ∈ ([[]] : List Text), isBlank line = true := by decide
    rw [heq, trimBy_append_right blank]

/-- Every line break in the text is a line feed. -/
def FeedsOnly (t : Text) : Prop := ∀ c ∈ t, isLineBreak c = true → c = '\n'

theorem FeedsOnly.not_mem_return {t : Text} (h : FeedsOnly t) : '\r' ∉ t := by
  intro hmem
  exact absurd (h '\r' hmem (by decide)) (by decide)

theorem FeedsOnly.trimBy_lines {t : Text} (h : FeedsOnly t) :
    trimBy isBlank (lines t) = trimBy isBlank (splitOn '\n' t) := by
  rw [Text.trimBy_lines h.not_mem_return]
  refine congrArg (trimBy isBlank) (splitWhere_congr fun c hc => ?_)
  rw [Bool.eq_iff_iff, beq_iff_eq]
  exact ⟨h c hc, fun hfeed => hfeed ▸ rfl⟩

theorem FeedsOnly.joinWith {rows : List Text} (h : ∀ row ∈ rows, FeedsOnly row) :
    FeedsOnly (joinWith ['\n'] rows) := by
  intro c hc hbreak
  rcases mem_joinWith hc with hfeed | ⟨row, hrow, hc⟩
  · exact List.mem_singleton.1 hfeed
  · exact h row hrow c hc hbreak

theorem FeedsOnly.of_mem_splitOn {t row : Text} (h : FeedsOnly t) (hrow : row ∈ splitOn '\n' t) :
    FeedsOnly row :=
  fun c hc => h c (mem_of_mem_splitOn hrow hc)

theorem FeedsOnly.drop {t : Text} (h : FeedsOnly t) (n : Nat) : FeedsOnly (t.drop n) :=
  fun c hc => h c (List.mem_of_mem_drop hc)

theorem FeedsOnly.dedentRow {m row : Text} (h : FeedsOnly row) : FeedsOnly (dedentRow m row) := by
  rw [dedentRow_eq_drop]
  exact h.drop _

theorem FeedsOnly.dedent {t : Text} (h : FeedsOnly t) : FeedsOnly (dedent t) := by
  rw [dedent_eq]
  apply FeedsOnly.joinWith
  rw [List.forall_mem_map]
  exact fun row hrow => (h.of_mem_splitOn hrow).dedentRow

/-- The rows of a text from the first to the last one that is not blank. -/
def innerRows (t : Text) : List Text := trimBy isBlank (splitOn '\n' t)

end Text

/-! ## Fragments -/

/-- A fragment of rows: what is left of it are its inner rows, each without its share of the margin. -/
theorem fragmentLines_eq_map {code : Text} (h : Text.FeedsOnly code) :
    fragmentLines code
      = (Text.innerRows code).map (Text.dedentRow (Text.margin (Text.solidRows code))) := by
  unfold fragmentLines Text.innerRows
  rw [h.dedent.trimBy_lines, splitOn_dedent]
  refine trimBy_map_of_forall fun row hrow => ?_
  rw [Text.dedentRow_eq_drop]
  exact Text.isBlank_drop (Text.share_isPrefix hrow) Text.isBlank_share

/-- A line is what is left of a row without `m`: nothing of a hollow row, and of any other row all that
stands behind `m`, which is all of its indentation that it loses. -/
structure IsDedented (m row line : Text) : Prop where
  hollow : Text.isHollow row = true → line = []
  solid : Text.isHollow row = false → row = m ++ line
  indentation : Text.isHollow row = false →
    Text.indentation row = m ++ Text.indentation line

/-- The lines of a fragment, row by row. Its rows are blank ones, the ones that are kept, and blank
ones again; what a kept row loses is the longest common start `m` of the indentations. -/
structure DedentedLines (code m : Text) (before kept after body : List Text) : Prop where
  rows : splitOn '\n' code = before ++ kept ++ after
  outer : ∀ row ∈ before ++ after, Text.isBlank row = true
  first : ∀ row ∈ kept.head?, Text.isBlank row = false
  last : ∀ row ∈ kept.getLast?, Text.isBlank row = false
  longest : Text.solidRows code ≠ [] →
    IsLongestStart m ((Text.solidRows code).map Text.indentation)
  each : List.Forall₂ (IsDedented m) kept body
  none_left : body = [] ↔ ∀ row ∈ splitOn '\n' code, Text.isBlank row = true

theorem isDedented_dedentRow {code row : Text} (hrow : row ∈ splitOn '\n' code) :
    IsDedented (Text.margin (Text.solidRows code)) row
      (Text.dedentRow (Text.margin (Text.solidRows code)) row) := by
  have parts := Text.share_append_dedentRow hrow
  have solid : Text.isHollow row = false → row
      = Text.margin (Text.solidRows code) ++ Text.dedentRow (Text.margin (Text.solidRows code)) row := by
    intro hsolid
    unfold Text.share at parts
    rw [hsolid] at parts
    exact parts.symm
  refine ⟨fun hhollow => if_pos hhollow, solid, fun hsolid => ?_⟩
  conv_lhs => rw [solid hsolid]
  exact List.takeWhile_append_of_pos fun c hc => Text.isIndent_of_mem_margin hc

/-- The code of a node is brought to column zero without a change to its shape, whatever it holds
between its line feeds. -/
theorem exists_dedentedLines {code : Text} (h : Text.FeedsOnly code) :
    ∃ m before kept after, DedentedLines code m before kept after (bodyLines (some code)) := by
  let rows := splitOn '\n' code
  let before := rows.takeWhile Text.isBlank
  let after := ((rows.dropWhile Text.isBlank).reverse.takeWhile Text.isBlank).reverse
  have parts : rows = before ++ Text.innerRows code ++ after := trimBy_append Text.isBlank rows
  have outer : ∀ row ∈ before ++ after, Text.isBlank row = true := by
    intro row hrow
    rcases List.mem_append.1 hrow with hrow | hrow
    · exact List.mem_takeWhile_imp hrow
    · exact List.mem_takeWhile_imp (List.mem_reverse.1 hrow)
  have body : bodyLines (some code)
      = (Text.innerRows code).map (Text.dedentRow (Text.margin (Text.solidRows code))) :=
    fragmentLines_eq_map h
  refine ⟨Text.margin (Text.solidRows code), before, Text.innerRows code, after, ?_⟩
  exact
    { rows := parts
      outer := outer
      first := fun row hrow => not_of_mem_head?_trimBy hrow
      last := fun row hrow => not_of_mem_getLast?_trimBy hrow
      longest := Text.margin_isLongestStart
      each := by
        rw [body, List.forall₂_map_right_iff, List.forall₂_same]
        exact fun row hrow => isDedented_dedentRow (mem_of_mem_trimBy hrow)
      none_left := by
        rw [body, List.map_eq_nil_iff]
        constructor
        · intro hnil row hrow
          rw [show splitOn '\n' code = _ from parts, hnil, List.append_nil] at hrow
          exact outer row hrow
        · intro blank
          exact trimBy_eq_nil blank }

/-- A fragment of four rows between blank ones: two more tabs before its second row than before the
last, and a row between them that holds less indentation than the margin. -/
def stepped : Text := "\n \n \tif x:\n \t\t\t# y\n \n \t\tz \u00A0\n\t".toList

theorem exists_dedentedLines_stepped :
    Text.FeedsOnly stepped ∧
      ∃ m before kept after, DedentedLines stepped m before kept after (bodyLines (some stepped)) :=
  have feeds : Text.FeedsOnly stepped := forall_mem_of_all (by decide)
  ⟨feeds, exists_dedentedLines feeds⟩

example : bodyLines (some stepped)
    = ["if x:".toList, "\t\t# y".toList, [], "\tz \u00A0".toList] := by decide

end GraphScribe
