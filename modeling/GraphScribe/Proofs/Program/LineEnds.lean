import GraphScribe.Graph.Field
import GraphScribe.Proofs.Program.Dedent

/-!
# Line ends in code

Indentation is measured on rows and code is cut into lines, and the two part company where a line ends
in anything but a line feed. Which lines are left of a fragment with other line ends is said row by
row, by what each row loses, and so is when they are the lines that line feeds would have left.

## The architecture

* **`drop_length_inj`** — a row that two of its own starts are taken off in turn tells the two apart.
* **`bodyLines_returnFeeds`** — with a line feed behind each carriage return, a row of nothing but
  indentation counts towards the margin.
* **`bodyLines_returns`** — with carriage returns alone the whole fragment is one row, so that only
  its first line loses its indentation.
* **`bodyLines_withLineEnds`** — both, and exactly when nothing is changed by them.
-/

namespace GraphScribe

namespace Text

/-! ## Other line ends -/

/-- The text with `ending` in the place of every line feed. -/
def withLineEnds (ending t : Text) : Text := t.flatMap fun c => if c = '\n' then ending else [c]

/-- The two line ends that start with a carriage return. -/
def IsReturn (ending : Text) : Prop := ending = ['\r'] ∨ ending = ['\r', '\n']

theorem withLineEnds_feed (ending rest : Text) :
    withLineEnds ending ('\n' :: rest) = ending ++ withLineEnds ending rest := rfl

theorem withLineEnds_cons_of_ne {c : Char} (h : c ≠ '\n') (ending rest : Text) :
    withLineEnds ending (c :: rest) = c :: withLineEnds ending rest := by
  unfold withLineEnds
  rw [List.flatMap_cons, if_neg h, List.singleton_append]

theorem withLineEnds_append (ending s t : Text) :
    withLineEnds ending (s ++ t) = withLineEnds ending s ++ withLineEnds ending t :=
  List.flatMap_append

theorem withLineEnds_of_not_mem {t : Text} (h : '\n' ∉ t) (ending : Text) :
    withLineEnds ending t = t := by
  induction t with
  | nil => rfl
  | cons c rest ih =>
    rw [List.mem_cons, not_or] at h
    rw [withLineEnds_cons_of_ne (Ne.symm h.1), ih h.2]

theorem not_mem_withLineEnds_return (t : Text) : '\n' ∉ withLineEnds ['\r'] t := by
  unfold withLineEnds
  rw [List.mem_flatMap]
  rintro ⟨c, -, hc⟩
  split at hc
  · exact absurd hc (by decide)
  · next hfeed => exact hfeed (List.mem_singleton.1 hc).symm

/-- Whatever its line ends are, the text has the same lines. -/
theorem lines_withLineEnds {ending t : Text} (hending : IsReturn ending) (h : '\r' ∉ t) :
    lines (withLineEnds ending t) = lines t := by
  induction t with
  | nil => rfl
  | cons c rest ih =>
    rw [List.mem_cons, not_or] at h
    obtain ⟨hreturn, hrest⟩ := h
    by_cases hfeed : c = '\n'
    · subst hfeed
      have plain : lines ('\n' :: rest) = [] :: lines rest := lines.eq_3 _ _ fun _ heq _ => hreturn heq.symm
      rw [withLineEnds_feed, plain, ← ih hrest]
      rcases hending with rfl | rfl
      · -- no line feed follows that the carriage return could take along
        have alone : ∀ others, withLineEnds ['\r'] rest ≠ '\n' :: others := by
          intro others heq
          exact not_mem_withLineEnds_return rest (heq ▸ List.mem_cons_self)
        exact lines.eq_3 _ _ fun others _ heq => alone others heq
      · rfl
    · rw [withLineEnds_cons_of_ne hfeed, lines.eq_3 _ _ fun _ heq _ => hreturn heq.symm,
        lines.eq_3 _ _ fun _ heq _ => hreturn heq.symm, ih hrest]

end Text

/-- Two starts of a text that leave the same of it when they are taken off are the same. -/
theorem drop_length_inj {s s' t : Text} (hs : s <+: t) (hs' : s' <+: t) :
    t.drop s.length = t.drop s'.length ↔ s = s' := by
  constructor
  · intro h
    have same : s.length = s'.length := by
      have lengths := congrArg List.length h
      rw [List.length_drop, List.length_drop] at lengths
      have short := hs.length_le
      have short' := hs'.length_le
      omega
    exact (List.prefix_of_prefix_length_le hs hs' (Nat.le_of_eq same)).eq_of_length same
  · intro h
    rw [h]

/-! ## Carriage returns with line feeds -/

/-- Rows that are closed by a carriage return and a line feed each. -/
theorem flatMap_returned {rows : List Text} (h : ∀ row ∈ rows, '\n' ∉ row) :
    (rows.map (· ++ ['\r'])).flatMap (· ++ ['\n'])
      = Text.withLineEnds ['\r', '\n'] (rows.flatMap (· ++ ['\n'])) := by
  induction rows with
  | nil => rfl
  | cons row rows ih =>
    rw [List.forall_mem_cons] at h
    rw [List.map_cons, List.flatMap_cons, List.flatMap_cons, Text.withLineEnds_append,
      Text.withLineEnds_append, Text.withLineEnds_of_not_mem h.1, ih h.2]
    simp [Text.withLineEnds]

/-- The same of rows between which there are line ends. -/
theorem joinWith_returned {front : List Text} {last : Text}
    (h : ∀ row ∈ front ++ [last], '\n' ∉ row) :
    joinWith ['\n'] (front.map (· ++ ['\r']) ++ [last])
      = Text.withLineEnds ['\r', '\n'] (joinWith ['\n'] (front ++ [last])) := by
  rw [List.forall_mem_append, List.forall_mem_singleton] at h
  rw [joinWith_concat, joinWith_concat, flatMap_returned h.1, Text.withLineEnds_append,
    Text.withLineEnds_of_not_mem h.2]

namespace Text

/-- The rows with a say in the margin when a carriage return stands behind each one but the last: of
hollow ones only the last has none. -/
def closedRows (t : Text) : List Text :=
  (splitOn '\n' t).dropLast ++ ((splitOn '\n' t).getLast?.toList.filter fun row => !isHollow row)

theorem closedRows_eq {t last : Text} {front : List Text} (h : splitOn '\n' t = front ++ [last]) :
    closedRows t = front ++ [last].filter fun row => !isHollow row := by
  unfold closedRows
  rw [h, List.dropLast_concat, List.getLast?_concat]
  rfl

theorem splitOn_withLineEnds {t last : Text} {front : List Text}
    (h : splitOn '\n' t = front ++ [last]) :
    splitOn '\n' (withLineEnds ['\r', '\n'] t) = front.map (· ++ ['\r']) ++ [last] := by
  have no_feed : ∀ row ∈ front ++ [last], '\n' ∉ row := h ▸ not_mem_of_mem_splitOn '\n' t
  have joined : withLineEnds ['\r', '\n'] t = joinWith ['\n'] (front.map (· ++ ['\r']) ++ [last]) := by
    rw [joinWith_returned no_feed, ← h, joinWith_splitOn]
  rw [joined]
  apply splitOn_joinWith (by simp)
  rw [List.forall_mem_append] at no_feed ⊢
  rw [List.forall_mem_map]
  refine ⟨fun row hrow hfeed => ?_, no_feed.2⟩
  rcases List.mem_append.1 hfeed with hfeed | hfeed
  · exact no_feed.1 row hrow hfeed
  · exact absurd hfeed (by decide)

theorem indentation_append_return (row : Text) : indentation (row ++ ['\r']) = indentation row := by
  unfold indentation
  rw [List.takeWhile_append]
  split
  · next hall =>
    have stop : (['\r'] : Text).takeWhile isIndent = [] := rfl
    rw [stop, List.append_nil]
    exact (List.takeWhile_prefix isIndent).eq_of_length hall |>.symm
  · rfl

theorem isHollow_append_return (row : Text) : isHollow (row ++ ['\r']) = false := by
  unfold isHollow
  rw [List.all_append]
  exact Bool.and_false _

theorem margin_congr {rows rows' : List Text} (h : rows.map indentation = rows'.map indentation) :
    margin rows = margin rows' := by
  induction rows generalizing rows' with
  | nil => rw [List.map_eq_nil_iff.1 h.symm]
  | cons row rows ih =>
    obtain ⟨row', others, rfl, heq, hrest⟩ := List.map_eq_cons_iff.1 h.symm
    cases rows with
    | nil =>
      rw [List.map_nil, List.map_eq_nil_iff] at hrest
      rw [hrest]
      exact heq.symm
    | cons next rows =>
      obtain ⟨next', others', rfl, -, -⟩ := List.map_eq_cons_iff.1 hrest
      rw [margin_cons, margin_cons, heq, ih hrest.symm]

theorem margin_withLineEnds (t : Text) :
    margin (solidRows (withLineEnds ['\r', '\n'] t)) = margin (closedRows t) := by
  obtain ⟨front, last, h⟩ := exists_concat_splitOn '\n' t
  have closed : (front.map (· ++ ['\r'])).filter (fun row => !isHollow row)
      = front.map (· ++ ['\r']) := by
    rw [List.filter_eq_self, List.forall_mem_map]
    intro row _
    rw [isHollow_append_return]
    rfl
  have same : indentation ∘ (· ++ ['\r']) = indentation := funext indentation_append_return
  unfold solidRows
  rw [splitOn_withLineEnds h, closedRows_eq h, List.filter_append, closed]
  apply margin_congr
  rw [List.map_append, List.map_append, List.map_map, same]

/-- Every inner row has a say in the margin. -/
theorem mem_closedRows_of_mem_innerRows {t row : Text} (h : row ∈ innerRows t) : row ∈ closedRows t := by
  obtain ⟨front, last, heq⟩ := exists_concat_splitOn '\n' t
  rw [closedRows_eq heq]
  unfold innerRows at h
  rw [heq] at h
  by_cases hhollow : isHollow last = true
  · -- a hollow last row is trimmed away
    have blank : ∀ row ∈ [last], isBlank row = true := by
      rw [List.forall_mem_singleton]
      exact isBlank_of_isHollow hhollow
    rw [trimBy_append_right blank] at h
    exact List.mem_append_left _ (mem_of_mem_trimBy h)
  · have counts : [last].filter (fun row => !isHollow row) = [last] := by simpa using hhollow
    rw [counts]
    exact mem_of_mem_trimBy h

/-- Rows without `m`: the last one if it is not hollow, and the others whatever they hold. -/
def strippedRows (m : Text) (front : List Text) (last : Text) : List Text :=
  front.map (fun row => row.drop m.length) ++ [dedentRow m last]

theorem not_mem_strippedRows {m last : Text} {front : List Text}
    (h : ∀ row ∈ front ++ [last], '\n' ∉ row) : ∀ row ∈ strippedRows m front last, '\n' ∉ row := by
  unfold strippedRows
  rw [List.forall_mem_append, List.forall_mem_singleton] at h ⊢
  rw [List.forall_mem_map]
  exact ⟨fun row hrow hfeed => h.1 row hrow (List.mem_of_mem_drop hfeed), not_mem_dedentRow h.2⟩

theorem feedsOnly_strippedRows {m last : Text} {front : List Text}
    (h : ∀ row ∈ front ++ [last], FeedsOnly row) : ∀ row ∈ strippedRows m front last, FeedsOnly row := by
  unfold strippedRows
  rw [List.forall_mem_append, List.forall_mem_singleton] at h ⊢
  rw [List.forall_mem_map]
  exact ⟨fun row hrow => (h.1 row hrow).drop _, h.2.dedentRow⟩

/-- A dedented text whose closed rows keep their carriage returns. -/
theorem dedent_withLineEnds {t last : Text} {front : List Text} (h : splitOn '\n' t = front ++ [last]) :
    dedent (withLineEnds ['\r', '\n'] t)
      = withLineEnds ['\r', '\n'] (joinWith ['\n'] (strippedRows (margin (closedRows t)) front last)) := by
  have no_feed : ∀ row ∈ front ++ [last], '\n' ∉ row := h ▸ not_mem_of_mem_splitOn '\n' t
  have closed : (front.map (· ++ ['\r'])).map (dedentRow (margin (closedRows t)))
      = (front.map fun row => row.drop (margin (closedRows t)).length).map (· ++ ['\r']) := by
    rw [List.map_map, List.map_map]
    refine List.map_congr_left fun row hrow => ?_
    have start : margin (closedRows t) <+: row := by
      apply margin_isPrefix
      rw [closedRows_eq h]
      exact List.mem_append_left _ hrow
    show dedentRow _ (row ++ ['\r']) = row.drop _ ++ ['\r']
    unfold dedentRow
    rw [isHollow_append_return, ← List.drop_append_of_le_length start.length_le]
    rfl
  unfold strippedRows
  rw [dedent_eq, splitOn_withLineEnds h, margin_withLineEnds, List.map_append, closed,
    List.map_singleton, joinWith_returned (not_mem_strippedRows no_feed)]

theorem isBlank_drop_margin_closedRows {t row : Text} (hrow : row ∈ splitOn '\n' t) :
    isBlank (row.drop (margin (closedRows t)).length) = isBlank row := by
  by_cases hhollow : isHollow row = true
  · have rest : isBlank (row.drop (margin (closedRows t)).length) = true :=
      isBlank_of_isIndent fun c hc => List.all_eq_true.1 hhollow c (List.mem_of_mem_drop hc)
    rw [rest, isBlank_of_isHollow hhollow]
  · obtain ⟨front, last, heq⟩ := exists_concat_splitOn '\n' t
    have counts : row ∈ closedRows t := by
      rw [closedRows_eq heq, List.mem_append, List.mem_filter]
      rw [heq, List.mem_append] at hrow
      exact hrow.imp_right fun hlast => ⟨hlast, by simpa using hhollow⟩
    exact isBlank_drop (margin_isPrefix _ row counts) (isBlank_margin _)

/-- Trimming takes the difference away that a hollow last row makes. -/
theorem trimBy_strippedRows {t last : Text} {front : List Text} (h : splitOn '\n' t = front ++ [last]) :
    trimBy isBlank (strippedRows (margin (closedRows t)) front last)
      = (innerRows t).map fun row => row.drop (margin (closedRows t)).length := by
  let m := margin (closedRows t)
  have blank : ∀ row ∈ front ++ [last], isBlank (row.drop m.length) = isBlank row :=
    fun row hrow => isBlank_drop_margin_closedRows (h ▸ hrow)
  have stripped : trimBy isBlank (strippedRows m front last)
      = trimBy isBlank ((front ++ [last]).map fun row => row.drop m.length) := by
    unfold strippedRows
    rw [List.map_append, List.map_singleton]
    by_cases hhollow : isHollow last = true
    · have whole : dedentRow m last = [] := if_pos hhollow
      have part : isBlank (last.drop m.length) = true := by
        rw [blank last (List.mem_append_right _ (List.mem_singleton_self last)),
          isBlank_of_isHollow hhollow]
      rw [trimBy_append_right (List.forall_mem_singleton.2 part)]
      exact trimBy_append_right (List.forall_mem_singleton.2 (whole ▸ rfl)) _
    · have same : dedentRow m last = last.drop m.length := if_neg hhollow
      rw [same]
  unfold innerRows
  rw [stripped, h]
  exact trimBy_map_of_forall blank

end Text

/-- With a line feed behind each carriage return, every inner row loses the margin of the closed
rows. -/
theorem bodyLines_returnFeeds {code : Text} (h : Text.FeedsOnly code) :
    bodyLines (some (Text.withLineEnds ['\r', '\n'] code))
      = (Text.innerRows code).map fun row => row.drop (Text.margin (Text.closedRows code)).length := by
  obtain ⟨front, last, heq⟩ := exists_concat_splitOn '\n' code
  let rows := Text.strippedRows (Text.margin (Text.closedRows code)) front last
  have feeds : ∀ row ∈ front ++ [last], Text.FeedsOnly row := fun row hrow =>
    h.of_mem_splitOn (heq ▸ hrow)
  have no_feed : ∀ row ∈ front ++ [last], '\n' ∉ row := heq ▸ not_mem_of_mem_splitOn '\n' code
  have joined : Text.FeedsOnly (joinWith ['\n'] rows) :=
    Text.FeedsOnly.joinWith (Text.feedsOnly_strippedRows feeds)
  have apart : splitOn '\n' (joinWith ['\n'] rows) = rows :=
    splitOn_joinWith (by simp [rows, Text.strippedRows]) (Text.not_mem_strippedRows no_feed)
  calc bodyLines (some (Text.withLineEnds ['\r', '\n'] code))
      = trimBy Text.isBlank (Text.lines (joinWith ['\n'] rows)) := by
        show trimBy _ (Text.lines (Text.dedent _)) = _
        rw [Text.dedent_withLineEnds heq, Text.lines_withLineEnds (Or.inr rfl) joined.not_mem_return]
    _ = trimBy Text.isBlank rows := by
        rw [joined.trimBy_lines, apart]
    _ = (Text.innerRows code).map fun row => row.drop (Text.margin (Text.closedRows code)).length :=
        Text.trimBy_strippedRows heq

/-! ## Carriage returns alone -/

namespace Text

theorem dropWhile_withLineEnds_return (t : Text) :
    (withLineEnds ['\r'] t).dropWhile isIndent = withLineEnds ['\r'] (t.dropWhile isIndent) := by
  induction t with
  | nil => rfl
  | cons c rest ih =>
    by_cases hfeed : c = '\n'
    · rw [hfeed]
      rfl
    · rw [withLineEnds_cons_of_ne hfeed, List.dropWhile_cons, List.dropWhile_cons]
      split
      · exact ih
      · rw [withLineEnds_cons_of_ne hfeed]

/-- The indentation that a text starts with belongs to its first row. -/
theorem splitOn_dropWhile_isIndent (t : Text) :
    splitOn '\n' (t.dropWhile isIndent) = (splitOn '\n' t).modifyHead (·.dropWhile isIndent) := by
  induction t with
  | nil => rfl
  | cons c rest ih =>
    unfold splitOn at ih ⊢
    by_cases hfeed : c = '\n'
    · rw [hfeed]
      rfl
    · have inside : (c == '\n') = false := beq_eq_false_iff_ne.2 hfeed
      obtain ⟨row, rows, heq⟩ := List.exists_cons_of_ne_nil (splitWhere_ne_nil (· == '\n') rest)
      rw [List.dropWhile_cons, splitWhere, inside]
      rw [heq] at ih ⊢
      by_cases hindent : isIndent c = true
      · rw [if_pos hindent, ih]
        show _ = (c :: row).dropWhile isIndent :: rows
        rw [List.dropWhile_cons_of_pos hindent]
        rfl
      · rw [if_neg hindent, splitWhere, inside, heq]
        show (c :: row) :: rows = (c :: row).dropWhile isIndent :: rows
        rw [List.dropWhile_cons_of_neg hindent]

/-- The inner rows of a text with their places among all of its rows. -/
def numberedRows (t : Text) : List (Text × Nat) :=
  trimBy (fun numbered => isBlank numbered.1) (splitOn '\n' t).zipIdx

/-- What a row loses when the whole text is taken for one: the first one its indentation, and any other
one nothing. -/
def firstShare (numbered : Text × Nat) : Text :=
  if numbered.2 = 0 then indentation numbered.1 else []

theorem firstShare_isPrefix (numbered : Text × Nat) : firstShare numbered <+: numbered.1 := by
  unfold firstShare
  split
  · exact List.takeWhile_prefix _
  · exact List.nil_prefix

theorem isBlank_firstShare (numbered : Text × Nat) : isBlank (firstShare numbered) = true := by
  unfold firstShare
  split
  · exact isBlank_indentation numbered.1
  · rfl

theorem map_fst_numberedRows (t : Text) : (numberedRows t).map Prod.fst = innerRows t := by
  have places := trimBy_map Prod.fst isBlank (splitOn '\n' t).zipIdx
  rw [List.zipIdx_map_fst] at places
  exact places.symm

theorem modifyHead_dropWhile_isIndent (rows : List Text) :
    rows.modifyHead (·.dropWhile isIndent)
      = rows.zipIdx.map fun numbered => numbered.1.drop (firstShare numbered).length := by
  cases rows with
  | nil => rfl
  | cons row rows =>
    have others : (rows.zipIdx 1).map (fun numbered => numbered.1.drop (firstShare numbered).length)
        = rows := by
      conv_rhs => rw [← List.zipIdx_map_fst 1 rows]
      refine List.map_congr_left fun numbered hnumbered => ?_
      have later : numbered.2 ≠ 0 := Nat.ne_of_gt (List.le_snd_of_mem_zipIdx hnumbered)
      have nothing : firstShare numbered = [] := if_neg later
      rw [nothing]
      rfl
    rw [List.modifyHead_cons, List.zipIdx_cons, List.map_cons, others, dropWhile_isIndent_eq_drop]
    rfl

end Text

/-- With carriage returns alone the first row loses its indentation, and no other row anything. -/
theorem bodyLines_returns {code : Text} (h : Text.FeedsOnly code) :
    bodyLines (some (Text.withLineEnds ['\r'] code))
      = (Text.numberedRows code).map fun numbered =>
          numbered.1.drop (Text.firstShare numbered).length := by
  have feeds : Text.FeedsOnly (code.dropWhile Text.isIndent) := by
    rw [Text.dropWhile_isIndent_eq_drop]
    exact h.drop _
  calc bodyLines (some (Text.withLineEnds ['\r'] code))
      = trimBy Text.isBlank (Text.lines (code.dropWhile Text.isIndent)) := by
        show trimBy _ (Text.lines (Text.dedent _)) = _
        rw [Text.dedent_of_not_mem (Text.not_mem_withLineEnds_return code),
          Text.dropWhile_withLineEnds_return, Text.lines_withLineEnds (Or.inl rfl) feeds.not_mem_return]
    _ = trimBy Text.isBlank ((splitOn '\n' code).zipIdx.map fun numbered =>
          numbered.1.drop (Text.firstShare numbered).length) := by
        rw [feeds.trimBy_lines, Text.splitOn_dropWhile_isIndent, Text.modifyHead_dropWhile_isIndent]
    _ = (Text.numberedRows code).map fun numbered =>
          numbered.1.drop (Text.firstShare numbered).length := by
        rw [trimBy_map]
        refine congrArg (List.map _) (trimBy_congr fun numbered _ => ?_)
        exact Text.isBlank_drop (Text.firstShare_isPrefix numbered) (Text.isBlank_firstShare numbered)

/-! ## Line ends that change nothing -/

/-- What is left of a fragment when its line feeds are other line ends: row by row, and exactly when it
is what was left with the line feeds. That is when every row that is kept loses the same. -/
structure ReturnLines (code : Text) : Prop where
  returnFeeds : bodyLines (some (Text.withLineEnds ['\r', '\n'] code))
    = (Text.innerRows code).map fun row => row.drop (Text.margin (Text.closedRows code)).length
  returnFeeds_iff :
    bodyLines (some (Text.withLineEnds ['\r', '\n'] code)) = bodyLines (some code) ↔
      ∀ row ∈ Text.innerRows code,
        Text.share (Text.margin (Text.solidRows code)) row = Text.margin (Text.closedRows code)
  returns : bodyLines (some (Text.withLineEnds ['\r'] code))
    = (Text.numberedRows code).map fun numbered => numbered.1.drop (Text.firstShare numbered).length
  returns_iff :
    bodyLines (some (Text.withLineEnds ['\r'] code)) = bodyLines (some code) ↔
      ∀ numbered ∈ Text.numberedRows code,
        Text.share (Text.margin (Text.solidRows code)) numbered.1 = Text.firstShare numbered

/-- Other line ends move the lines of a fragment against its margin, and they do it only where a row
would lose more or less than with line feeds. -/
theorem bodyLines_withLineEnds {code : Text} (h : Text.FeedsOnly code) : ReturnLines code := by
  have body : bodyLines (some code)
      = (Text.innerRows code).map (Text.dedentRow (Text.margin (Text.solidRows code))) :=
    fragmentLines_eq_map h
  refine ⟨bodyLines_returnFeeds h, ?_, bodyLines_returns h, ?_⟩
  · rw [bodyLines_returnFeeds h, body, List.map_inj_left]
    refine forall₂_congr fun row hrow => ?_
    have start := Text.margin_isPrefix _ row (Text.mem_closedRows_of_mem_innerRows hrow)
    rw [Text.dedentRow_eq_drop, drop_length_inj start (Text.share_isPrefix (mem_of_mem_trimBy hrow))]
    exact eq_comm
  · rw [bodyLines_returns h, body, ← Text.map_fst_numberedRows, List.map_map, List.map_inj_left]
    refine forall₂_congr fun numbered hnumbered => ?_
    have inner : numbered.1 ∈ Text.innerRows code :=
      Text.map_fst_numberedRows code ▸ List.mem_map_of_mem hnumbered
    show _ = Text.dedentRow _ numbered.1 ↔ _
    rw [Text.dedentRow_eq_drop, drop_length_inj (Text.firstShare_isPrefix numbered)
      (Text.share_isPrefix (mem_of_mem_trimBy inner))]
    exact eq_comm

/-- Two indented statements with an empty row between them. -/
def spacedPair : Text := "    x = 1\n\n    return x".toList

theorem bodyLines_withLineEnds_spacedPair : Text.FeedsOnly spacedPair ∧ ReturnLines spacedPair :=
  have feeds : Text.FeedsOnly spacedPair := forall_mem_of_all (by decide)
  ⟨feeds, bodyLines_withLineEnds feeds⟩

/-- Its line feeds cannot be exchanged for either of the other line ends, which cleaning leaves where
they are: the first statement keeps its indentation, or the second one does. -/
theorem spacedPair_moved :
    Text.FeedsOnly spacedPair ∧
      cleanCode (.text (Text.withLineEnds ['\r', '\n'] spacedPair))
        = .ok (some (rawOf (Text.withLineEnds ['\r', '\n'] spacedPair))) ∧
      cleanCode (.text (Text.withLineEnds ['\r'] spacedPair))
        = .ok (some (rawOf (Text.withLineEnds ['\r'] spacedPair))) ∧
      bodyLines (some (Text.withLineEnds ['\r', '\n'] spacedPair)) ≠ bodyLines (some spacedPair) ∧
      bodyLines (some (Text.withLineEnds ['\r'] spacedPair)) ≠ bodyLines (some spacedPair) :=
  ⟨forall_mem_of_all (by decide), rfl, rfl, by decide +kernel, by decide +kernel⟩

example : bodyLines (some (Text.withLineEnds ['\r', '\n'] spacedPair))
    = ["    x = 1".toList, [], "    return x".toList] := by decide +kernel

end GraphScribe
