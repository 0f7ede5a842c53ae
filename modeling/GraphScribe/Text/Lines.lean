import GraphScribe.Text.Blank

/-!
# Lines and common indentation

Two notions of line are in use. A *row* ends at a line feed only; indentation is measured on rows.
A *line* ends at any of the Unicode line boundaries, a carriage return and line feed together
counting as one. Main statements: no line holds a line boundary (`not_isLineBreak_of_mem_lines`),
and the margin is a start of every row it is taken from (`margin_isPrefix`).
-/

namespace GraphScribe.Text

/-! ## Lines -/

def isLineBreak (c : Char) : Bool :=
  let n := c.toNat
  (0x0A ≤ n && n ≤ 0x0D) || (0x1C ≤ n && n ≤ 0x1E) || n == 0x85 || n == 0x2028 || n == 0x2029

/-- The lines of a text, without their ends. A break at the very end opens no further line. -/
def lines : Text → List Text
  | [] => []
  | '\r' :: '\n' :: rest => [] :: lines rest
  | c :: rest => if isLineBreak c then [] :: lines rest else consHead c (lines rest)

theorem not_isLineBreak_of_mem_lines (t : Text) :
    ∀ line ∈ lines t, ∀ c ∈ line, isLineBreak c = false := by
  have cons_case : ∀ (c : Char) (ls : List Text), isLineBreak c = false →
      (∀ line ∈ ls, ∀ d ∈ line, isLineBreak d = false) →
      ∀ line ∈ consHead c ls, ∀ d ∈ line, isLineBreak d = false := by
    intro c ls hc hls
    cases ls with
    | nil => simp [consHead, hc]
    | cons l rest =>
      intro line hline d hd
      simp only [consHead, List.mem_cons] at hline
      cases hline with
      | inl h =>
        subst h
        cases List.mem_cons.1 hd with
        | inl h => rw [h]; exact hc
        | inr h => exact hls l (List.mem_cons_self) d h
      | inr h => exact hls line (List.mem_cons_of_mem _ h) d hd
  fun_induction lines t with
  | case1 => simp
  | case2 rest ih => simpa using ih
  | case3 c rest _ hc ih => simpa using ih
  | case4 c rest _ hc ih => exact cons_case c _ (by simpa using hc) ih

/-! ## Indentation -/

def isIndent (c : Char) : Bool := c == ' ' || c == '\t'

/-- Does the row hold nothing but indentation? -/
def isHollow (row : Text) : Bool := row.all isIndent

def indentation (row : Text) : Text := row.takeWhile isIndent

/-- The longest common start of two texts. -/
def commonStart : Text → Text → Text
  | c :: cs, d :: ds => if c = d then c :: commonStart cs ds else []
  | _, _ => []

theorem commonStart_isPrefix_left (s t : Text) : commonStart s t <+: s := by
  fun_induction commonStart s t with
  | case1 _ c _ ih => exact (List.prefix_cons_inj c).2 ih
  | case2 => exact List.nil_prefix
  | case3 => exact List.nil_prefix

theorem commonStart_isPrefix_right (s t : Text) : commonStart s t <+: t := by
  fun_induction commonStart s t with
  | case1 _ c _ ih => exact (List.prefix_cons_inj c).2 ih
  | case2 => exact List.nil_prefix
  | case3 => exact List.nil_prefix

/-- The margin of some rows: the longest indentation that all of them start with. -/
def margin : List Text → Text
  | [] => []
  | [row] => indentation row
  | row :: rows => commonStart (indentation row) (margin rows)

theorem margin_isPrefix (rows : List Text) : ∀ row ∈ rows, margin rows <+: row := by
  induction rows with
  | nil => simp
  | cons row rows ih =>
    have own : indentation row <+: row := List.takeWhile_prefix _
    cases rows with
    | nil => simpa [margin] using own
    | cons row' rows' =>
      intro r hr
      rw [margin.eq_3 _ _ (by simp)]
      cases List.mem_cons.1 hr with
      | inl h => rw [h]; exact (commonStart_isPrefix_left _ _).trans own
      | inr h => exact (commonStart_isPrefix_right _ _).trans (ih r h)

/-- The text with the common margin taken off every row. A row of nothing but indentation becomes
empty and has no say in the margin. -/
def dedent (t : Text) : Text :=
  -- rows, not lines: a carriage return inside a row is text like any other
  let rows := splitOn '\n' t
  let width := (margin (rows.filter fun row => !isHollow row)).length
  joinWith ['\n'] (rows.map fun row => if isHollow row then [] else row.drop width)

end GraphScribe.Text
