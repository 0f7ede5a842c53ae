import GraphScribe.Proofs.Program.Statement
import GraphScribe.Proofs.Text.Parts
import GraphScribe.Proofs.Text.Plain

/-!
# The lines of a program

Which lines stand where: the assembly (`assemblySection_eq`), the function of a step
(`functionBlock_eq`), and the sections with two empty lines between them (`sourceLines_eq`), or with
nothing but empty lines between them under any bootstrap fragment (`exists_gaps`), so that the first
and the last line are always the same (`Plan.exists_source_eq`). No line holds a character that ends a
line, whatever the graph holds, so that the text of a program has exactly the
lines that were written (`lines_source`).
-/

namespace GraphScribe

/-! ## The assembly -/

theorem Writer.indented_zero : indented 0 = id := by
  funext line
  unfold indented
  split
  · next hempty => exact (List.isEmpty_iff.1 hempty).symm
  · rfl

theorem flatMap_registrations {nodes : List PlannedNode} (h : ∀ p ∈ nodes, p.isStep = true) :
    nodes.flatMap PlannedNode.registrations
      = nodes.map fun p => registration p.name p.function := by
  rw [List.map_eq_flatMap]
  refine List.flatMap_congr fun p hp => ?_
  unfold PlannedNode.registrations
  rw [if_pos (h p hp)]

/-- The empty line that stands before the edges of a plan, if it has any. -/
def edgeGap (plan : Plan) : List Text := if plan.edges.isEmpty then [] else [[]]

/-- The assembly: the construction, one line for each step, one line for each edge, and the
finalization, all at the margin. -/
theorem assemblySection_eq {plan : Plan} (h : ∀ p ∈ plan.nodes, p.isStep = true) :
    assemblySection plan = [construction]
      ++ plan.nodes.map (fun p => registration p.name p.function)
      ++ edgeGap plan ++ plan.edges.map connection ++ [[], finalization] := by
  unfold assemblySection edgeGap
  dsimp only
  rw [flatMap_registrations h]
  unfold Writer.line Writer.extend Writer.blank Writer.start
  cases hedges : plan.edges.isEmpty <;> simp [Writer.indented_zero]

theorem finalization_eq : finalization = "graph = graph_builder.compile(".toList ++ [')'] := by
  rfl

/-- The finalization is the last line of the assembly, whatever stands above it. -/
theorem exists_assemblySection_eq (plan : Plan) :
    ∃ front, assemblySection plan = front ++ [finalization] := by
  unfold assemblySection
  dsimp only
  split
  · exact ⟨_, rfl⟩
  · exact ⟨_, rfl⟩

/-! ## Functions -/

/-- A line of the body of a function: four spaces deep, unless it is empty. -/
def bodyLine (line : Text) : Text := if line.isEmpty then [] else "    ".toList ++ line

/-- The function of a step: its header, its body four spaces deep, and two empty lines. -/
theorem functionBlock_eq {p : PlannedNode} (h : p.isStep = true) :
    functionBlock p
      = functionHeader p.function :: (functionBody p.name p.code).map bodyLine ++ [[], []] := by
  unfold functionBlock Writer.function
  rw [if_pos h]
  unfold Writer.line Writer.extend Writer.blank Writer.push Writer.pop Writer.start
  have deep : Writer.indented 1 = bodyLine := rfl
  simp [Writer.indented_zero, deep]

theorem getLast?_functionBlock (p : PlannedNode) : (functionBlock p).getLast? = some [] := by
  unfold functionBlock Writer.blank
  simp

theorem functionSection_ends (plan : Plan) :
    functionSection plan = [] ∨ (functionSection plan).getLast? = some [] := by
  unfold functionSection
  rcases List.eq_nil_or_concat' plan.nodes with hnil | ⟨front, p, heq⟩
  · exact Or.inl (by rw [hnil]; rfl)
  · refine Or.inr ?_
    rw [heq, List.flatMap_append, List.flatMap_singleton, List.getLast?_append,
      getLast?_functionBlock]
    rfl

/-! ## Sections -/

theorem addSection_of_line {lines section' : List Text} {c : Char} {l : Text}
    (hlines : lines.getLast? = some (c :: l)) (hsection : section' ≠ []) :
    addSection lines section' = lines ++ [[], []] ++ section' := by
  unfold addSection
  cases section' with
  | nil => exact absurd rfl hsection
  | cons line rest => rw [hlines]

theorem addSection_of_blank {lines : List Text} (section' : List Text)
    (hlines : lines.getLast? = some []) : addSection lines section' = lines ++ section' := by
  unfold addSection
  rw [hlines]
  cases section' <;> rfl

theorem addSection_nil (lines : List Text) : addSection lines [] = lines :=
  List.append_nil lines

/-- A section is added behind an empty gap, or behind no gap at all. -/
theorem exists_gap (lines section' : List Text) :
    ∃ gap, (∀ line ∈ gap, line = []) ∧ addSection lines section' = lines ++ gap ++ section' := by
  have two : ∀ line ∈ ([[], []] : List Text), line = [] := by decide
  unfold addSection
  split
  · exact ⟨[[], []], two, rfl⟩
  · exact ⟨[], by simp, by rw [List.append_nil]⟩

/-- The sections of a program in their order, with nothing but empty lines between them, whatever
bootstrap fragment is given. -/
theorem exists_gaps (plan : Plan) (bootstrap : Text) :
    ∃ gap gap' gap'', (∀ line ∈ gap, line = []) ∧ (∀ line ∈ gap', line = []) ∧
      (∀ line ∈ gap'', line = []) ∧
      plan.sourceLines bootstrap = preamble ++ gap ++ bootstrapSection bootstrap
        ++ gap' ++ functionSection plan ++ gap'' ++ assemblySection plan := by
  obtain ⟨gap, empty, heq⟩ := exists_gap preamble (bootstrapSection bootstrap)
  obtain ⟨gap', empty', heq'⟩ :=
    exists_gap (preamble ++ gap ++ bootstrapSection bootstrap) (functionSection plan)
  obtain ⟨gap'', empty'', heq''⟩ := exists_gap
    (preamble ++ gap ++ bootstrapSection bootstrap ++ gap' ++ functionSection plan)
    (assemblySection plan)
  refine ⟨gap, gap', gap'', empty, empty', empty'', ?_⟩
  have first : addSection [] preamble = preamble := rfl
  unfold Plan.sourceLines
  simp only [List.foldl_cons, List.foldl_nil]
  rw [first, heq, heq', heq'']

/-- The text of a program starts with the import line, and ends with the finalization and one line
feed. -/
theorem Plan.exists_source_eq (plan : Plan) (bootstrap : Option Text) :
    ∃ middle, plan.source bootstrap
      = "from langgraph.graph import StateGraph, START, END".toList ++ middle ++ finalization
        ++ ['\n'] := by
  obtain ⟨gap, gap', gap'', -, -, -, heq⟩ := exists_gaps plan (bootstrap.getD defaultBootstrap)
  obtain ⟨front, hfront⟩ := exists_assemblySection_eq plan
  let between := gap ++ bootstrapSection (bootstrap.getD defaultBootstrap) ++ gap'
    ++ functionSection plan ++ gap'' ++ front
  refine ⟨(between.flatMap fun next => ['\n'] ++ next) ++ ['\n'], ?_⟩
  have lines : plan.sourceLines (bootstrap.getD defaultBootstrap)
      = "from langgraph.graph import StateGraph, START, END".toList :: (between ++ [finalization]) := by
    rw [heq, hfront]
    simp only [between, List.append_assoc]
    rfl
  unfold source
  rw [lines, joinWith, List.flatMap_append, List.flatMap_singleton]
  simp only [List.append_assoc]

/-- The lines above the functions of a program: the import line and the bootstrap fragment. -/
def programHead (bootstrap : List Text) : List Text := preamble ++ [[], []] ++ bootstrap

/-- The sections of a program, each set off by two empty lines. The ones before the assembly are
there also in a program without functions, and not there twice in a program with some. -/
theorem sourceLines_eq (plan : Plan) {bootstrap : Text} {c : Char} {l : Text}
    (h : (bootstrapSection bootstrap).getLast? = some (c :: l)) :
    plan.sourceLines bootstrap = programHead (bootstrapSection bootstrap) ++ [[], []]
      ++ functionSection plan ++ assemblySection plan := by
  have hboot : bootstrapSection bootstrap ≠ [] := by
    intro hnil
    rw [hnil] at h
    exact absurd h (by simp)
  have hassembly : assemblySection plan ≠ [] := by
    unfold assemblySection Writer.line
    simp
  have top : addSection (addSection [] preamble) (bootstrapSection bootstrap)
      = programHead (bootstrapSection bootstrap) := by
    have first : addSection [] preamble = preamble := rfl
    have last : ∃ c l, preamble.getLast? = some (c :: l) := ⟨'f', _, rfl⟩
    obtain ⟨_, _, hlast⟩ := last
    rw [first]
    exact addSection_of_line hlast hboot
  have ends : (programHead (bootstrapSection bootstrap)).getLast? = some (c :: l) := by
    unfold programHead
    rw [List.getLast?_append, h]
    rfl
  unfold Plan.sourceLines
  simp only [List.foldl_cons, List.foldl_nil]
  rw [top]
  rcases functionSection_ends plan with hnone | hlast
  · -- no functions: the two empty lines are put before the assembly
    rw [hnone, addSection_nil, addSection_of_line ends hassembly, List.append_nil]
  · -- the last function has brought the two empty lines along
    have hfunctions : functionSection plan ≠ [] := by
      intro hnil
      rw [hnil] at hlast
      exact absurd hlast (by simp)
    rw [addSection_of_line ends hfunctions]
    refine addSection_of_blank _ ?_
    rw [List.getLast?_append, hlast]
    rfl

/-! ## Lines without line ends -/

/-- A line that holds no character that ends a line. -/
def IsLine (line : Text) : Prop := ∀ c ∈ line, Text.isLineBreak c = false

instance (line : Text) : Decidable (IsLine line) := List.decidableBAll _ line

theorem IsLine.append {s t : Text} (hs : IsLine s) (ht : IsLine t) : IsLine (s ++ t) :=
  List.forall_mem_append.2 ⟨hs, ht⟩

theorem isLine_nil : IsLine [] := by
  intro c hc
  exact absurd hc List.not_mem_nil

theorem isLine_quoted (t : Text) : IsLine (quoted t) := fun _ => not_isLineBreak_of_mem_quoted

theorem IsIdentifier.isLine {x : Text} (h : IsIdentifier x) : IsLine x := by
  obtain ⟨c, rest, -, -, hchars⟩ := h
  intro d hd
  -- every line end has a number below 48 or above 122
  have range : 48 ≤ d.toNat ∧ d.toNat ≤ 122 := by
    have hident := hchars d hd
    unfold isIdentifierChar at hident
    rw [Bool.or_eq_true, isAlphanum_iff, beq_iff_eq] at hident
    rcases hident with ((hupper | hlower) | hdigit) | rfl
    · have bounds : 65 ≤ d.toNat ∧ d.toNat ≤ 90 := toNat_between hupper
      omega
    · have bounds : 97 ≤ d.toNat ∧ d.toNat ≤ 122 := toNat_between hlower
      omega
    · have bounds : 48 ≤ d.toNat ∧ d.toNat ≤ 57 := toNat_between hdigit
      omega
    · decide
  unfold Text.isLineBreak
  simp only [Bool.or_eq_false_iff, Bool.and_eq_false_iff, decide_eq_false_iff_not,
    beq_eq_false_iff_ne]
  omega

theorem IsExpression.isLine {x : Text} (h : IsExpression x) : IsLine x := by
  rcases h with ⟨t, rfl⟩ | hident
  · exact isLine_quoted t
  · exact hident.isLine

theorem isLine_functionBody (name : Text) (code : Option Text) :
    ∀ line ∈ functionBody name code, IsLine line := by
  have fragment : ∀ line ∈ bodyLines code, IsLine line := by
    unfold bodyLines
    cases code with
    | none => exact fun line h => absurd h List.not_mem_nil
    | some code => exact fun line h => Text.not_isLineBreak_of_mem_lines _ line (mem_of_mem_trimBy h)
  have statement : IsLine (notImplementedStatement name) :=
    ((by decide : IsLine "raise NotImplementedError(".toList).append (isLine_quoted _)).append
      (by decide)
  unfold functionBody
  dsimp only
  split
  · exact fragment
  · rw [List.forall_mem_append, List.forall_mem_singleton]
    exact ⟨fragment, statement⟩

theorem isLine_functionHeader {f : Text} (h : IsFunctionName f) : IsLine (functionHeader f) :=
  ((by decide : IsLine "def ".toList).append h.isIdentifier.isLine).append (by decide)

theorem isLine_registration (name : Text) {f : Text} (h : IsFunctionName f) :
    IsLine (registration name f) :=
  ((((by decide : IsLine "graph_builder.add_node(".toList).append (isLine_quoted name)).append
    (by decide)).append h.isIdentifier.isLine).append (by decide)

theorem isLine_connection {e : PlannedEdge} (hsource : IsExpression e.source)
    (htarget : IsExpression e.target) : IsLine (connection e) :=
  ((((by decide : IsLine "graph_builder.add_edge(".toList).append hsource.isLine).append
    (by decide)).append htarget.isLine).append (by decide)

/-! ## The text of a program -/

/-- A plan as it comes from a graph: nothing but steps, with distinct identifiers for their
functions, and edges between expressions. -/
structure Plan.WellFormed (plan : Plan) : Prop where
  steps : ∀ p ∈ plan.nodes, p.isStep = true
  functions : ∀ p ∈ plan.nodes, IsFunctionName p.function
  functions_distinct : (plan.nodes.map PlannedNode.function).Nodup
  ends : ∀ e ∈ plan.edges, IsExpression e.source ∧ IsExpression e.target

theorem isLine_functionBlock {p : PlannedNode} (hstep : p.isStep = true)
    (hfunction : IsFunctionName p.function) : ∀ line ∈ functionBlock p, IsLine line := by
  have deep : ∀ line, IsLine line → IsLine (bodyLine line) := by
    intro line hline
    unfold bodyLine
    split
    · exact isLine_nil
    · exact (by decide : IsLine "    ".toList).append hline
  rw [functionBlock_eq hstep, List.forall_mem_append, List.forall_mem_cons, List.forall_mem_map]
  exact ⟨⟨isLine_functionHeader hfunction,
    fun line hline => deep line (isLine_functionBody p.name p.code line hline)⟩, by decide⟩

theorem Plan.WellFormed.isLine {plan : Plan} (h : plan.WellFormed) (bootstrap : Text) :
    ∀ line ∈ plan.sourceLines bootstrap, IsLine line := by
  have functions : ∀ line ∈ functionSection plan, IsLine line := by
    intro line hline
    obtain ⟨p, hp, hmem⟩ := List.mem_flatMap.1 hline
    exact isLine_functionBlock (h.steps p hp) (h.functions p hp) line hmem
  have edges : ∀ line ∈ edgeGap plan, IsLine line := by
    unfold edgeGap
    split <;> decide
  have assembly : ∀ line ∈ assemblySection plan, IsLine line := by
    rw [assemblySection_eq h.steps]
    simp only [List.forall_mem_append, List.forall_mem_map]
    exact ⟨⟨⟨⟨by decide, fun p hp => isLine_registration p.name (h.functions p hp)⟩, edges⟩,
      fun e he => isLine_connection (h.ends e he).1 (h.ends e he).2⟩, by decide⟩
  have blank : ∀ gap : List Text, (∀ line ∈ gap, line = []) → ∀ line ∈ gap, IsLine line := by
    intro gap empty line hline
    rw [empty line hline]
    exact isLine_nil
  obtain ⟨gap, gap', gap'', empty, empty', empty'', heq⟩ := exists_gaps plan bootstrap
  rw [heq]
  simp only [List.forall_mem_append]
  exact ⟨⟨⟨⟨⟨⟨by decide, blank gap empty⟩, Text.not_isLineBreak_of_mem_lines _⟩, blank gap' empty'⟩,
    functions⟩, blank gap'' empty''⟩, assembly⟩

theorem lines_append_feed {line : Text} (h : IsLine line) (rest : Text) :
    Text.lines (line ++ '\n' :: rest) = line :: Text.lines rest := by
  induction line with
  | nil => rfl
  | cons c line ih =>
    rw [IsLine, List.forall_mem_cons] at h
    obtain ⟨hc, hline⟩ := h
    -- a carriage return would take the line feed behind it along
    have hreturn : c ≠ '\r' := by
      rintro rfl
      exact absurd hc (by decide)
    rw [List.cons_append, Text.lines.eq_3 _ _ fun _ heq _ => hreturn heq, if_neg (by simp [hc]),
      ih hline]
    rfl

/-- Lines that are closed by a line feed each are the lines of the text they make. -/
theorem lines_flatMap_append {ls : List Text} (h : ∀ line ∈ ls, IsLine line) :
    Text.lines (ls.flatMap (· ++ ['\n'])) = ls := by
  induction ls with
  | nil => rfl
  | cons line ls ih =>
    rw [List.forall_mem_cons] at h
    rw [List.flatMap_cons, List.append_assoc, List.singleton_append, lines_append_feed h.1, ih h.2]

theorem Plan.sourceLines_ne_nil (plan : Plan) (bootstrap : Text) :
    plan.sourceLines bootstrap ≠ [] := by
  obtain ⟨_, _, _, -, -, -, heq⟩ := exists_gaps plan bootstrap
  rw [heq]
  unfold preamble
  simp

theorem Plan.WellFormed.lines_source {plan : Plan} (h : plan.WellFormed)
    (bootstrap : Option Text) :
    Text.lines (plan.source bootstrap) = plan.sourceLines (bootstrap.getD defaultBootstrap) := by
  unfold Plan.source
  rw [joinWith_append_separator _ (sourceLines_ne_nil plan _), lines_flatMap_append (h.isLine _)]

end GraphScribe
