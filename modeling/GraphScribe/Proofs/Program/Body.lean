import GraphScribe.Proofs.Program.Reader

/-!
# Bodies of functions

A function without a statement in its body makes a whole program unreadable. The function of a step
always has one: a line that is neither blank nor a comment, which is of the fragment, or says that there
is none in the fragment (`realBody_functionBody`). What writes a function leaves the level as it found it
(`Writer.writes_function`), so a writer can go on from function to function
(`Writer.function_realBody`).

## The architecture

* **`Silent`** — the lines that say nothing to be run, and **`isStatement_iff`**: those are the lines
  that are no statements.
* **`RealBody`** — what the body of a function owes to its fragment.
* **`Writer.Writes`** — what appends lines at the level that it finds, closed under composition
  (`Writes.comp`, `Writes.foldl`); the law of each operation and of a whole function.
-/

namespace GraphScribe

/-! ## Lines that say nothing -/

/-- The line says nothing to be run: it holds blanks only, or a comment behind blanks. -/
inductive Silent : Text → Prop
  | blank {line : Text} (h : ∀ c ∈ line, isBlankChar c = true) : Silent line
  | comment {indent rest : Text} (h : ∀ c ∈ indent, isBlankChar c = true) :
      Silent (indent ++ '#' :: rest)

theorem isStatement_iff (line : Text) : isStatement line = true ↔ ¬ Silent line := by
  unfold isStatement
  split
  · next hnil =>
    refine iff_of_false Bool.false_ne_true (not_not_intro (.blank ?_))
    exact List.dropWhile_eq_nil_iff.1 hnil
  · next c rest heq =>
    have solid : isBlankChar c = false := by
      have first := List.head?_dropWhile_not isBlankChar line
      rwa [heq] at first
    by_cases hc : c = '#'
    · subst hc
      refine iff_of_false (by decide) (not_not_intro ?_)
      rw [← List.takeWhile_append_dropWhile (p := isBlankChar) (l := line), heq]
      exact .comment fun d hd => List.mem_takeWhile_imp hd
    · refine iff_of_true (bne_iff_ne.2 hc) fun silent => ?_
      cases silent with
      | blank h =>
        rw [List.dropWhile_eq_nil_iff.2 h] at heq
        cases heq
      | comment h =>
        rw [List.dropWhile_append_of_pos h] at heq
        exact hc (List.cons.inj heq).1.symm

theorem hasStatement_iff (lines : List Text) :
    hasStatement lines = true ↔ ∃ line ∈ lines, ¬ Silent line := by
  unfold hasStatement
  rw [List.any_eq_true]
  simp only [isStatement_iff]

theorem not_silent_notImplementedStatement (name : Text) : ¬ Silent (notImplementedStatement name) :=
  (isStatement_iff _).1 rfl

/-! ## Bodies -/

/-- No line at either end of a fragment is blank. -/
theorem visible_of_mem_head?_bodyLines {code : Option Text} {line : Text}
    (h : line ∈ (bodyLines code).head?) : Text.isBlank line = false := by
  cases code with
  | none => cases h
  | some code => exact not_of_mem_head?_trimBy h

theorem visible_of_mem_getLast?_bodyLines {code : Option Text} {line : Text}
    (h : line ∈ (bodyLines code).getLast?) : Text.isBlank line = false := by
  cases code with
  | none => cases h
  | some code => exact not_of_mem_getLast?_trimBy h

/-- The body of a function: it holds a line that is neither blank nor a comment, it neither starts nor
ends with a blank line, and it is the fragment, below which it is said that the node is not implemented
exactly if the fragment holds nothing but blank lines and comments. -/
structure RealBody (name : Text) (code : Option Text) (body : List Text) : Prop where
  statement : ∃ line ∈ body, ¬ Silent line
  first : ∀ line ∈ body.head?, ∃ c ∈ line, isBlankChar c = false
  last : ∀ line ∈ body.getLast?, ∃ c ∈ line, isBlankChar c = false
  spoken : (∃ line ∈ bodyLines code, ¬ Silent line) → body = bodyLines code
  silent : (∀ line ∈ bodyLines code, Silent line) →
    body = bodyLines code ++ ["raise NotImplementedError(".toList
      ++ quoted ("Node ".toList ++ quoted name ++ " is not implemented".toList) ++ [')']]

theorem exists_solid {line : Text} (h : Text.isBlank line = false) :
    ∃ c ∈ line, isBlankChar c = false := by
  unfold Text.isBlank at h
  rw [List.all_eq_false] at h
  simpa only [Bool.not_eq_true] using h

theorem functionBody_of_spoken {code : Option Text} (h : ∃ line ∈ bodyLines code, ¬ Silent line)
    (name : Text) : functionBody name code = bodyLines code :=
  if_pos ((hasStatement_iff _).2 h)

theorem functionBody_of_silent {code : Option Text} (h : ∀ line ∈ bodyLines code, Silent line)
    (name : Text) : functionBody name code = bodyLines code ++ [notImplementedStatement name] := by
  refine if_neg fun hstatement => ?_
  obtain ⟨line, hmem, hline⟩ := (hasStatement_iff _).1 hstatement
  exact hline (h line hmem)

theorem realBody_functionBody (name : Text) (code : Option Text) :
    RealBody name code (functionBody name code) := by
  by_cases hspoken : ∃ line ∈ bodyLines code, ¬ Silent line
  · have body := functionBody_of_spoken hspoken name
    constructor
    case statement => rwa [body]
    case first =>
      rw [body]
      exact fun line hline => exists_solid (visible_of_mem_head?_bodyLines hline)
    case last =>
      rw [body]
      exact fun line hline => exists_solid (visible_of_mem_getLast?_bodyLines hline)
    case spoken => exact fun _ => body
    case silent =>
      intro hsilent
      obtain ⟨line, hmem, hline⟩ := hspoken
      exact absurd (hsilent line hmem) hline
  · have hsilent : ∀ line ∈ bodyLines code, Silent line := by
      intro line hmem
      by_contra hline
      exact hspoken ⟨line, hmem, hline⟩
    have body := functionBody_of_silent hsilent name
    have said : ∃ c ∈ notImplementedStatement name, isBlankChar c = false :=
      ⟨'r', List.mem_cons_self, rfl⟩
    constructor
    case statement =>
      rw [body]
      exact ⟨_, List.mem_append_right _ List.mem_cons_self, not_silent_notImplementedStatement name⟩
    case first =>
      rw [body]
      intro line hline
      rw [List.head?_append, Option.mem_def, Option.or_eq_some_iff] at hline
      rcases hline with hline | ⟨-, hline⟩
      · exact exists_solid (visible_of_mem_head?_bodyLines hline)
      · cases hline
        exact said
    case last =>
      rw [body]
      intro line hline
      rw [List.getLast?_concat] at hline
      cases hline
      exact said
    case spoken => exact fun h => absurd h hspoken
    case silent => exact fun _ => body

/-! ## Writing -/

namespace Writer

/-- What appends some lines at the level that it finds, and leaves that level as it was. -/
def Writes (f : Writer → Writer) (ts : List Text) : Prop :=
  ∀ w : Writer, 0 ≤ w.level → f w = ⟨w.lines ++ ts.map (indented w.level), w.level⟩

theorem Writes.comp {f g : Writer → Writer} {ts us : List Text} (hf : Writes f ts)
    (hg : Writes g us) : Writes (fun w => g (f w)) (ts ++ us) := by
  intro w hw
  have second := hg ⟨w.lines ++ ts.map (indented w.level), w.level⟩ hw
  show g (f w) = _
  rw [hf w hw, second, List.map_append, List.append_assoc]

/-- One after the other. Induction on what is still to be written. -/
theorem Writes.foldl {α : Type} {f : Writer → α → Writer} {view : α → List Text}
    (h : ∀ a, Writes (fun w => f w a) (view a)) (items : List α) :
    Writes (fun w => items.foldl f w) (items.flatMap view) := by
  induction items with
  | nil =>
    intro w _
    show w = _
    rw [List.flatMap_nil, List.map_nil, List.append_nil]
  | cons a items ih =>
    rw [List.flatMap_cons]
    exact (h a).comp ih

theorem writes_line (t : Text) : Writes (fun w => w.line t) [t] := fun _ _ => rfl

theorem writes_extend (ts : List Text) : Writes (fun w => w.extend ts) ts := fun _ _ => rfl

theorem writes_blank (count : Nat) :
    Writes (fun w => w.blank count) (List.replicate count []) := by
  intro w _
  show (⟨w.lines ++ List.replicate (count : Int).toNat [], w.level⟩ : Writer) = _
  rw [List.map_replicate, Int.toNat_natCast]
  rfl

/-- One level deeper a line stands as a line of a body does at this level. -/
theorem indented_succ {level : Int} (h : 0 ≤ level) (line : Text) :
    indented (level + 1) line = indented level (bodyLine line) := by
  cases line with
  | nil => rfl
  | cons c line =>
    have deeper : 4 * (level + 1).toNat = 4 * level.toNat + 4 := by omega
    show List.replicate (4 * (level + 1).toNat) ' ' ++ c :: line
      = List.replicate (4 * level.toNat) ' ' ++ (List.replicate 4 ' ' ++ c :: line)
    rw [deeper, ← List.replicate_append_replicate, List.append_assoc]

/-- What is written between a step to the right and one to the left is written as a body is. -/
theorem Writes.block {f : Writer → Writer} {ts : List Text} (h : Writes f ts) :
    Writes (fun w => (f w.push).pop) (ts.map bodyLine) := by
  intro w hw
  have inside := h w.push (by show 0 ≤ w.level + 1; omega)
  have back : max 0 (w.level + 1 - 1) = w.level := by omega
  show (f w.push).pop = _
  rw [inside]
  show (⟨w.lines ++ ts.map (indented (w.level + 1)), max 0 (w.level + 1 - 1)⟩ : Writer) = _
  rw [back, List.map_map]
  congr 2
  exact List.map_congr_left fun line _ => indented_succ hw line

/-- The lines of a node's function at the margin, if it has one. -/
def functionLines (n : PlannedNode) : List Text :=
  if n.isStep then functionHeader n.function :: (functionBody n.name n.code).map bodyLine else []

theorem writes_function (n : PlannedNode) : Writes (fun w => w.function n) (functionLines n) := by
  unfold function functionLines
  by_cases hstep : n.isStep = true
  · simp only [if_pos hstep]
    exact (writes_line _).comp (writes_extend _).block
  · simp only [if_neg hstep]
    intro w _
    show w = _
    rw [List.map_nil, List.append_nil]

theorem writes_function_blank (n : PlannedNode) :
    Writes (fun w => (w.function n).blank 2) (functionBlock n) := by
  have written : Writes (fun w => (w.function n).blank 2) (functionLines n ++ [[], []]) :=
    (writes_function n).comp (writes_blank 2)
  have block : functionBlock n = functionLines n ++ [[], []] := by
    have first := congrArg Writer.lines (written (start 0) (Int.le_refl 0))
    rw [show (start 0).level = 0 from rfl, indented_zero, List.map_id] at first
    exact first
  rw [block]
  exact written

/-- The function of a step is written as its header at the level of the writer and its body one level
deeper. The body is a real one, and the writer is at its level again, so that going on with the next
functions writes each of them as it stands at the margin. -/
theorem function_realBody {w : Writer} (hw : 0 ≤ w.level) {n : PlannedNode}
    (hn : n.type = "NODE".toList) :
    (∃ body, RealBody n.name n.code body ∧
      (w.function n).lines = w.lines
        ++ indented w.level ("def ".toList ++ n.function ++ "(state: State):".toList)
          :: body.map (indented (w.level + 1))) ∧
      (w.function n).level = w.level ∧
      ∀ later : List PlannedNode,
        (later.foldl (fun w p => (w.function p).blank 2) ((w.function n).blank 2)).lines
          = w.lines ++ (functionSection ⟨n :: later, []⟩).map (indented w.level) := by
  have step : n.isStep = true := beq_iff_eq.2 hn
  have here : w.function n = ⟨w.lines ++ (functionLines n).map (indented w.level), w.level⟩ :=
    writes_function n w hw
  refine ⟨⟨functionBody n.name n.code, realBody_functionBody n.name n.code, ?_⟩, ?_, fun later => ?_⟩
  · have body : (functionBody n.name n.code).map (indented (w.level + 1))
        = ((functionBody n.name n.code).map bodyLine).map (indented w.level) := by
      rw [List.map_map]
      exact List.map_congr_left fun line _ => indented_succ hw line
    rw [body]
    show (w.function n).lines = w.lines
      ++ (functionHeader n.function :: (functionBody n.name n.code).map bodyLine).map (indented w.level)
    rw [here, functionLines, if_pos step]
  · rw [here]
  · have all := Writes.foldl writes_function_blank (n :: later) w hw
    exact congrArg Writer.lines all

/-- A fragment of two comments with a line of odd blanks between them, two levels deep. -/
theorem function_realBody_comments :
    ∃ body, RealBody "a".toList (some "# one\n\u00a0\u2003\n  # two\n".toList) body ∧
      ((start 2).function ⟨"n".toList, "a".toList, "NODE".toList, "a".toList,
          some "# one\n\u00a0\u2003\n  # two\n".toList⟩).lines
        = indented 2 "def a(state: State):".toList :: body.map (indented 3) := by
  obtain ⟨⟨body, real, written⟩, -, -⟩ := @function_realBody (start 2) (by decide)
    ⟨"n".toList, "a".toList, "NODE".toList, "a".toList, some "# one\n\u00a0\u2003\n  # two\n".toList⟩ rfl
  exact ⟨body, real, written⟩

end Writer

end GraphScribe
