import GraphScribe.Proofs.Program.Planning
import Mathlib.Data.List.Count

/-!
# What stands at the margin of a program

A program is cut into rows at its line feeds, and nowhere else would anything that reads it cut. Below
the bootstrap fragment a row stands at the margin only if the writer put it there: everything that an
author wrote is four spaces deep, or inside a literal on a row of its own kind.

## The architecture

* **`joinWith_lines`** — a text that knows no other line end than the line feed is its lines.
* **`filter_functionSection`**, **`filter_assemblySection`** — the margin, section by section.
* **`map_marginRows`** — what the rows at the margin say, so that each of two rows stands there once.
* **`exists_programRows`** — a whole program, for any graph that has one and any bootstrap fragment.
-/

namespace GraphScribe

/-! ## Lines that are rows -/

/-- Where every line end is a line feed and none stands last, lines and rows are the same. -/
theorem lines_eq_splitOn {t : Text} (hne : t ≠ []) (hlast : ∀ front, t ≠ front ++ ['\n'])
    (h : ∀ c ∈ t, Text.isLineBreak c = true → c = '\n') : Text.lines t = splitOn '\n' t := by
  induction t with
  | nil => exact absurd rfl hne
  | cons c rest ih =>
    rw [List.forall_mem_cons] at h
    obtain ⟨hc, hrest⟩ := h
    have hreturn : c ≠ '\r' := by
      rintro rfl
      exact absurd (hc (by decide)) (by decide)
    have same : Text.isLineBreak c = (c == '\n') := by
      by_cases hfeed : c = '\n'
      · rw [hfeed]
        decide
      · rw [beq_eq_false_iff_ne.2 hfeed, Bool.eq_false_iff]
        exact fun hbreak => hfeed (hc hbreak)
    unfold splitOn
    rw [Text.lines.eq_3 _ _ fun _ heq _ => hreturn heq, splitWhere, same]
    cases rest with
    | nil =>
      -- the two would differ here only behind a line feed
      have hfeed : (c == '\n') = false := beq_eq_false_iff_ne.2 fun heq => hlast [] (heq ▸ rfl)
      rw [hfeed]
      rfl
    | cons d rest =>
      have tail : Text.lines (d :: rest) = splitOn '\n' (d :: rest) :=
        ih (by simp) (fun front heq => hlast (c :: front) (by rw [heq]; rfl)) hrest
      rw [tail]
      rfl

theorem joinWith_lines {t : Text} (hlast : ∀ front, t ≠ front ++ ['\n'])
    (h : ∀ c ∈ t, Text.isLineBreak c = true → c = '\n') : joinWith ['\n'] (Text.lines t) = t := by
  cases t with
  | nil => rfl
  | cons c rest => rw [lines_eq_splitOn (by simp) hlast h, joinWith_splitOn]

/-- Line feeds around a text are no part of its lines, so none is lost at its end. -/
theorem joinWith_lines_trimBy {t : Text}
    (h : ∀ c ∈ trimBy (· == '\n') t, Text.isLineBreak c = true → c = '\n') :
    joinWith ['\n'] (Text.lines (trimBy (· == '\n') t)) = trimBy (· == '\n') t := by
  refine joinWith_lines (fun front hfront => ?_) h
  exact absurd (not_of_trimBy_eq_append hfront) (by decide)

/-! ## The margin -/

/-- Does a row stand at the margin: is it neither empty nor four spaces deep? -/
def isAtMargin (row : Text) : Bool := !row.isEmpty && !"    ".toList.isPrefixOf row

theorem filter_empty {gap : List Text} (h : ∀ row ∈ gap, row = []) :
    gap.filter isAtMargin = [] := by
  rw [List.filter_eq_nil_iff]
  intro row hrow
  rw [h row hrow]
  decide

theorem not_isAtMargin_bodyLine (line : Text) : isAtMargin (bodyLine line) = false := by
  unfold bodyLine isAtMargin
  split
  · rfl
  · have deep : "    ".toList.isPrefixOf ("    ".toList ++ line) = true :=
      List.isPrefixOf_iff_prefix.2 (List.prefix_append _ line)
    rw [deep, Bool.not_true, Bool.and_false]

/-- Of a function only the header stands at the margin. -/
theorem filter_functionBlock {p : PlannedNode} (h : p.isStep = true) :
    (functionBlock p).filter isAtMargin = [functionHeader p.function] := by
  have header : isAtMargin (functionHeader p.function) = true := rfl
  have body : ((functionBody p.name p.code).map bodyLine).filter isAtMargin = [] := by
    rw [List.filter_eq_nil_iff, List.forall_mem_map]
    intro line _
    rw [not_isAtMargin_bodyLine]
    decide
  rw [functionBlock_eq h, List.filter_append, List.filter_cons_of_pos header, body,
    filter_empty (by decide)]
  rfl

theorem filter_functionSection {plan : Plan} (h : ∀ p ∈ plan.nodes, p.isStep = true) :
    (functionSection plan).filter isAtMargin
      = plan.nodes.map fun p => functionHeader p.function := by
  unfold functionSection
  rw [List.filter_flatMap, List.map_eq_flatMap]
  exact List.flatMap_congr fun p hp => filter_functionBlock (h p hp)

theorem filter_assemblySection {plan : Plan} (h : ∀ p ∈ plan.nodes, p.isStep = true) :
    (assemblySection plan).filter isAtMargin = [construction]
      ++ plan.nodes.map (fun p => registration p.name p.function)
      ++ plan.edges.map connection ++ [finalization] := by
  have registrations : ∀ row ∈ plan.nodes.map (fun p => registration p.name p.function),
      isAtMargin row = true := by
    rw [List.forall_mem_map]
    exact fun p _ => rfl
  have connections : ∀ row ∈ plan.edges.map connection, isAtMargin row = true := by
    rw [List.forall_mem_map]
    exact fun e _ => rfl
  have gap : (edgeGap plan).filter isAtMargin = [] := by
    refine filter_empty ?_
    unfold edgeGap
    split <;> decide
  have opening : [construction].filter isAtMargin = [construction] := rfl
  have closing : [[], finalization].filter isAtMargin = [finalization] := rfl
  rw [assemblySection_eq h]
  simp only [List.filter_append]
  rw [opening, closing, gap, List.filter_eq_self.2 registrations, List.filter_eq_self.2 connections,
    List.append_nil]

/-! ## Statements at the margin -/

namespace Plan

/-- The rows at the margin below the bootstrap fragment. -/
def marginRows (plan : Plan) : List Text :=
  plan.nodes.map (fun p => functionHeader p.function) ++ [construction]
    ++ plan.nodes.map (fun p => registration p.name p.function)
    ++ plan.edges.map connection ++ [finalization]

/-- What these rows say. -/
def marginStatements (plan : Plan) : List Statement :=
  plan.nodes.map (fun p => .header p.function) ++ [.construction]
    ++ plan.nodes.map (fun p => .addNode (quoted p.name) p.function)
    ++ plan.edges.map (fun e => .addEdge e.source e.target) ++ [.finalization]

variable {plan : Plan}

theorem WellFormed.map_marginRows (h : plan.WellFormed) :
    plan.marginRows.map Statement.ofLine? = plan.marginStatements.map some := by
  have headers : ∀ p ∈ plan.nodes,
      Statement.ofLine? (functionHeader p.function) = some (.header p.function) :=
    fun p hp => ofLine?_functionHeader (h.functions p hp)
  have registrations : ∀ p ∈ plan.nodes, Statement.ofLine? (registration p.name p.function)
      = some (.addNode (quoted p.name) p.function) :=
    fun p hp => ofLine?_registration p.name (h.functions p hp)
  have connections : ∀ e ∈ plan.edges,
      Statement.ofLine? (connection e) = some (.addEdge e.source e.target) :=
    fun e he => ofLine?_connection (h.ends e he).1 (h.ends e he).2
  unfold marginRows marginStatements
  simp only [List.map_append, List.map_map, List.map_cons, List.map_nil, ofLine?_construction,
    ofLine?_finalization]
  congr 1
  congr 1
  · congr 1
    · congr 1
      exact List.map_congr_left headers
    · exact List.map_congr_left registrations
  · exact List.map_congr_left connections

/-- A row that says what no other row says stands at the margin once. -/
theorem WellFormed.count_marginRows (h : plan.WellFormed) {row : Text} {s : Statement}
    (hread : Statement.ofLine? row = some s) (hrow : row ∈ plan.marginRows)
    (honce : plan.marginStatements.count s = 1) : plan.marginRows.count row = 1 := by
  have some_row : 0 < plan.marginRows.count row := List.count_pos_iff.2 hrow
  have bound : plan.marginRows.count row ≤ plan.marginStatements.count s := by
    calc plan.marginRows.count row
        ≤ (plan.marginRows.map Statement.ofLine?).count (Statement.ofLine? row) :=
          List.count_le_count_map
      _ = (plan.marginStatements.map some).count (some s) := by rw [h.map_marginRows, hread]
      _ = plan.marginStatements.count s :=
          List.count_map_of_injective _ some (fun _ _ => Option.some.inj) s
  omega

/-- The two statements that name nothing are made once. -/
theorem count_marginStatements (plan : Plan) {s : Statement}
    (h : s = .construction ∨ s = .finalization) : plan.marginStatements.count s = 1 := by
  have headers : s ∉ plan.nodes.map fun p => .header p.function := by
    rcases h with rfl | rfl <;> simp
  have registrations : s ∉ plan.nodes.map fun p => .addNode (quoted p.name) p.function := by
    rcases h with rfl | rfl <;> simp
  have connections : s ∉ plan.edges.map fun e => .addEdge e.source e.target := by
    rcases h with rfl | rfl <;> simp
  unfold marginStatements
  simp only [List.count_append, List.count_eq_zero_of_not_mem headers,
    List.count_eq_zero_of_not_mem registrations, List.count_eq_zero_of_not_mem connections]
  rcases h with rfl | rfl <;> decide

end Plan

/-! ## Whole programs -/

/-- A row that adds an edge between the expressions for its two ends. -/
def AddsEdge (g : Graph) (e : Edge) (row : Text) : Prop :=
  ∃ source target, ExpressionFor g e.source source ∧ ExpressionFor g e.target target ∧
    row = "graph_builder.add_edge(".toList ++ source ++ ", ".toList ++ target ++ [')']

/-- The rows of a program for the graph `g`: the import line, empty rows, the lines of the bootstrap
fragment without the line feeds around it, and the rows below. Of those below, the ones at the margin
are a header for each step, the construction, a registration for each step, a connection for each
edge, and the finalization. -/
structure ProgramRows (g : Graph) (bootstrap source : Text) (gap below : List Text) : Prop where
  one_feed_last : ∃ front c, source = front ++ [c, '\n'] ∧ c ≠ '\n'
  rows : splitOn '\n' source = ["from langgraph.graph import StateGraph, START, END".toList] ++ gap
    ++ Text.lines (trimBy (· == '\n') bootstrap) ++ below ++ [[]]
  no_breaks : ∀ row ∈ splitOn '\n' source, ∀ c ∈ row, Text.isLineBreak c = false
  gap_empty : ∀ row ∈ gap, row = []
  verbatim : (∀ c ∈ trimBy (· == '\n') bootstrap, Text.isLineBreak c = true → c = '\n') →
    joinWith ['\n'] (Text.lines (trimBy (· == '\n') bootstrap)) = trimBy (· == '\n') bootstrap
  steps_named : (namedSteps g).map Prod.fst = g.steps
  margin : ∃ connections, List.Forall₂ (AddsEdge g) g.edges connections ∧
    below.filter isAtMargin = (namedSteps g).map (fun (_, f) => functionHeader f)
      ++ ["graph_builder = StateGraph(State)".toList]
      ++ (namedSteps g).map (fun (n, f) => registration n.name f)
      ++ connections ++ ["graph = graph_builder.compile()".toList]
  finalization_last : below.getLast? = some "graph = graph_builder.compile()".toList
  construction_once : below.count "graph_builder = StateGraph(State)".toList = 1
  finalization_once : below.count "graph = graph_builder.compile()".toList = 1

namespace Plan

/-- The rows of a plan below its bootstrap fragment, with nothing but empty ones between its
sections, are at the margin where they should be. -/
theorem WellFormed.filter_below {plan : Plan} (h : plan.WellFormed) {gap' gap'' : List Text}
    (empty' : ∀ row ∈ gap', row = []) (empty'' : ∀ row ∈ gap'', row = []) :
    (gap' ++ functionSection plan ++ gap'' ++ assemblySection plan).filter isAtMargin
      = plan.marginRows := by
  simp only [List.filter_append]
  rw [filter_empty empty', filter_empty empty'', filter_functionSection h.steps,
    filter_assemblySection h.steps]
  simp [marginRows]

theorem WellFormed.getLast?_assemblySection {plan : Plan} (h : plan.WellFormed) :
    (assemblySection plan).getLast? = some finalization := by
  rw [assemblySection_eq h.steps, List.getLast?_append]
  rfl

theorem WellFormed.splitOn_source {plan : Plan} (h : plan.WellFormed) (bootstrap : Option Text) :
    splitOn '\n' (plan.source bootstrap)
      = plan.sourceLines (bootstrap.getD defaultBootstrap) ++ [[]] := by
  have no_feed : ∀ row ∈ plan.sourceLines (bootstrap.getD defaultBootstrap), '\n' ∉ row :=
    fun row hrow hfeed => absurd (h.isLine _ row hrow _ hfeed) (by decide)
  have closed := joinWith_append_separator ['\n']
    (plan.sourceLines_ne_nil (bootstrap.getD defaultBootstrap))
  unfold Plan.source
  rw [closed, ← splitOn_flatMap_append no_feed List.not_mem_nil, List.append_nil]

theorem WellFormed.no_breaks {plan : Plan} (h : plan.WellFormed) (bootstrap : Option Text) :
    ∀ row ∈ splitOn '\n' (plan.source bootstrap), ∀ c ∈ row, Text.isLineBreak c = false := by
  rw [h.splitOn_source, List.forall_mem_append]
  exact ⟨h.isLine _, by simp⟩

/-- The text of a program ends with one line feed, after a bracket. -/
theorem one_feed_last (plan : Plan) (bootstrap : Option Text) :
    ∃ front c, plan.source bootstrap = front ++ [c, '\n'] ∧ c ≠ '\n' := by
  obtain ⟨middle, heq⟩ := plan.exists_source_eq bootstrap
  refine ⟨"from langgraph.graph import StateGraph, START, END".toList ++ middle
    ++ "graph = graph_builder.compile(".toList, ')', ?_, by decide⟩
  rw [heq, finalization_eq]
  simp only [List.append_assoc, List.cons_append, List.nil_append]

/-- A row at the margin that makes one of the statements that name nothing stands there once. -/
theorem WellFormed.count_below {plan : Plan} (h : plan.WellFormed) {below : List Text}
    (margin : below.filter isAtMargin = plan.marginRows) {row : Text} {s : Statement}
    (hmargin : isAtMargin row = true) (hread : Statement.ofLine? row = some s)
    (hrow : row ∈ plan.marginRows) (hs : s = .construction ∨ s = .finalization) :
    below.count row = 1 := by
  rw [← List.count_filter hmargin, margin]
  exact h.count_marginRows hread hrow (plan.count_marginStatements hs)

theorem marginRows_eq {g : Graph} {plan : Plan} (h : plan.nodes = nodesOf g) :
    plan.marginRows = (namedSteps g).map (fun (_, f) => functionHeader f) ++ [construction]
      ++ (namedSteps g).map (fun (n, f) => registration n.name f)
      ++ plan.edges.map connection ++ [finalization] := by
  unfold marginRows
  rw [h, nodesOf_eq_map, List.map_map, List.map_map]
  rfl

end Plan

/-- Nothing that an author wrote reaches the margin of a program: the rows of every program there is
are as they should be, whatever the labels and the code of its graph hold, and whatever bootstrap
fragment is given. -/
theorem exists_programRows {g : Graph} {bootstrap : Option Text} {source : Text}
    (h : g.source bootstrap = .ok source) :
    ∃ gap below, ProgramRows g (bootstrap.getD defaultBootstrap) source gap below := by
  obtain ⟨plan, hplan, heq⟩ := bind_eq_ok_iff.1 h
  injection heq with heq
  obtain ⟨hnodes, hedges⟩ := (Plan.ofGraph_eq_ok_iff g plan).1 hplan
  have wellFormed := Plan.wellFormed_of_ofGraph hplan
  obtain ⟨gap, gap', gap'', empty, empty', empty'', hlines⟩ :=
    exists_gaps plan (bootstrap.getD defaultBootstrap)
  let below := gap' ++ functionSection plan ++ gap'' ++ assemblySection plan
  have margin : below.filter isAtMargin = plan.marginRows := wellFormed.filter_below empty' empty''
  refine ⟨gap, below, ?_⟩
  rw [← heq]
  exact
    { one_feed_last := plan.one_feed_last bootstrap
      rows := by
        rw [wellFormed.splitOn_source, hlines]
        simp only [below, List.append_assoc]
        rfl
      no_breaks := wellFormed.no_breaks bootstrap
      gap_empty := empty
      verbatim := joinWith_lines_trimBy
      steps_named := List.map_fst_zip (Nat.le_of_eq (length_functions g))
      margin := by
        refine ⟨plan.edges.map connection, ?_, margin.trans (Plan.marginRows_eq hnodes)⟩
        rw [List.forall₂_map_right_iff]
        exact hedges.imp fun e p planned =>
          ⟨p.source, p.target, planned.source, planned.target, rfl⟩
      finalization_last := by
        show (_ ++ assemblySection plan).getLast? = some finalization
        rw [List.getLast?_append, wellFormed.getLast?_assemblySection]
        rfl
      construction_once := by
        have hrow : construction ∈ plan.marginRows := by simp [Plan.marginRows]
        exact wellFormed.count_below margin (by decide) ofLine?_construction hrow (Or.inl rfl)
      finalization_once := by
        have hrow : finalization ∈ plan.marginRows := by simp [Plan.marginRows]
        exact wellFormed.count_below margin (by decide) ofLine?_finalization hrow (Or.inr rfl) }

/-- A graph that was never made canonical: an id given twice, a label with line ends and both quotes
in it, and code whose lines look like the end of a program. -/
def unrulyGraph : Graph where
  nodes := [
    ⟨"a".toList, "NODE".toList, some "it's\n\u2028\"one\"".toList,
      some "graph = graph_builder.compile()\x0b\tgo\r\ngraph_builder = StateGraph(State)".toList⟩,
    ⟨"a".toList, "NODE".toList, some [], some "# later\x0c".toList⟩,
    ⟨"b".toList, "NOTE".toList, some "START".toList, none⟩]
  edges := [⟨"START".toList, "a".toList⟩, ⟨"a".toList, "b".toList⟩, ⟨"b".toList, "END".toList⟩]

/-- A bootstrap fragment with line feeds around it and other line ends in it. -/
def unrulyBootstrap : Text := "\n\nx = 1\x0by = 2\n\x0c\n".toList

theorem exists_programRows_unruly :
    ∃ source, unrulyGraph.source (some unrulyBootstrap) = .ok source ∧
      ∃ gap below, ProgramRows unrulyGraph unrulyBootstrap source gap below := by
  have written : (unrulyGraph.source (some unrulyBootstrap)).toOption.isSome = true := by
    decide +kernel
  obtain ⟨source, hsource⟩ := Option.isSome_iff_exists.1 written
  have h := eq_ok_of_toOption hsource
  exact ⟨source, h, exists_programRows h⟩

end GraphScribe
