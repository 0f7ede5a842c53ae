import GraphScribe.Proofs.Program.Layout
import Mathlib.Data.List.DropRight

/-!
# Programs read back line by line

A reader that goes over the lines of a program below its bootstrap fragment, knows nothing of the
graph, and takes down which names are registered with which bodies, and which edges are added.

## The architecture

* **`Reading.step`** — one line. Empty and indented lines belong to the function last begun; every
  other line is a `Statement`.
* **`run_functionBlock`**, **`run_functionSection`** — the functions of a plan leave their bodies
  behind, the latest first.
* **`run_registrations`** — each registration finds the body that its function was given, since no
  two functions share a name.
* **`run_connections`** — each edge is taken down as what its two expressions stand for.
* **`readProgram_source`** — the whole text of a program.
-/

namespace GraphScribe

/-! ## The reader -/

/-- How far a program has been read: among its functions, inside its assembly, or to the end. -/
inductive Stage where
  | functions
  | assembly
  | done
  deriving DecidableEq

/-- What has been read of a program: the functions with the lines of their bodies, the latest
first; the names registered so far with the bodies of their functions; and the edges so far. -/
structure Reading where
  stage : Stage
  bodies : List (Text × List Text)
  registered : List (Text × List Text)
  edges : List (Endpoint × Endpoint)
  deriving DecidableEq

namespace Reading

/-- Nothing has been read. -/
def start : Reading := ⟨.functions, [], [], []⟩

/-- The lines of a body without the empty ones at its end. -/
def closed (body : List Text) : List Text := body.rdropWhile List.isEmpty

/-- Adds a line to the body of the function last begun. -/
def gather? (r : Reading) (line : Text) : Option Reading :=
  match r.stage, r.bodies with
  | .functions, (f, body) :: rest => some { r with bodies := (f, body ++ [line]) :: rest }
  | _, _ => none

/-- Carries out a statement. A function keeps its latest body; a registration takes the body that
its function has by then. -/
def obey (r : Reading) : Statement → Option Reading
  | .header f =>
    if r.stage = .functions then some { r with bodies := (f, []) :: r.bodies } else none
  | .construction => if r.stage = .functions then some { r with stage := .assembly } else none
  | .addNode literal f =>
    match r.stage, literalValue? literal, r.bodies.lookup f with
    | .assembly, some name, some body =>
      some { r with registered := r.registered ++ [(name, closed body)] }
    | _, _, _ => none
  | .addEdge source target =>
    match r.stage, Endpoint.ofExpression? source, Endpoint.ofExpression? target with
    | .assembly, some source, some target => some { r with edges := r.edges ++ [(source, target)] }
    | _, _, _ => none
  | .finalization => if r.stage = .assembly then some { r with stage := .done } else none

/-- Reads one line: an empty line, a line four spaces deep, or a statement. -/
def step (r : Reading) (line : Text) : Option Reading :=
  if line = [] then some ((r.gather? line).getD r)
  else
    match "    ".toList.isPrefixOf? line with
    | some inner => r.gather? inner
    | none => (Statement.ofLine? line).bind r.obey

/-- Reads some lines. -/
def run (r : Reading) : List Text → Option Reading
  | [] => some r
  | line :: lines => (r.step line).bind fun r => r.run lines

end Reading

/-- Reads the text of a program with a given bootstrap fragment, to its end. -/
def readProgram (bootstrap : List Text) (source : Text) : Option Reading :=
  match (programHead bootstrap).isPrefixOf? (Text.lines source) with
  | none => none
  | some lines => (Reading.start.run lines).filter (·.stage = .done)

namespace Reading

theorem run_append (r : Reading) (front back : List Text) :
    r.run (front ++ back) = (r.run front).bind fun r => r.run back := by
  induction front generalizing r with
  | nil => rfl
  | cons line front ih =>
    show (r.step line).bind _ = ((r.step line).bind _).bind _
    rw [Option.bind_assoc]
    cases r.step line with
    | none => rfl
    | some r' => exact ih r'

theorem run_append_of_eq_some {r r' : Reading} {front : List Text} (h : r.run front = some r')
    (back : List Text) : r.run (front ++ back) = r'.run back := by
  rw [run_append, h]
  rfl

theorem step_of_statement (r : Reading) {line : Text} {c : Char} {rest : Text}
    (hline : line = c :: rest) (hmargin : c ≠ ' ') {s : Statement}
    (h : Statement.ofLine? line = some s) : r.step line = r.obey s := by
  have margin : "    ".toList.isPrefixOf? line = none := by
    rw [hline]
    show (if (' ' == c) = true then _ else none) = none
    exact if_neg (by simpa using Ne.symm hmargin)
  unfold step
  rw [if_neg (by simp [hline]), margin, h]
  rfl

/-! ## Functions -/

/-- A line of a body is read as it was before it was indented. -/
theorem step_bodyLine (f : Text) (body : List Text) (rest : List (Text × List Text))
    (registered : List (Text × List Text)) (edges : List (Endpoint × Endpoint)) (line : Text) :
    step ⟨.functions, (f, body) :: rest, registered, edges⟩ (bodyLine line)
      = some ⟨.functions, (f, body ++ [line]) :: rest, registered, edges⟩ := by
  unfold bodyLine
  cases line with
  | nil => rfl
  | cons c line =>
    rw [if_neg (by simp)]
    unfold step
    rw [if_neg (by simp), isPrefixOf?_append]
    rfl

theorem run_bodyLines (f : Text) (body : List Text) (rest : List (Text × List Text))
    (registered : List (Text × List Text)) (edges : List (Endpoint × Endpoint))
    (lines : List Text) :
    run ⟨.functions, (f, body) :: rest, registered, edges⟩ (lines.map bodyLine)
      = some ⟨.functions, (f, body ++ lines) :: rest, registered, edges⟩ := by
  induction lines generalizing body with
  | nil => rw [List.append_nil]; rfl
  | cons line lines ih =>
    rw [List.map_cons, run, step_bodyLine, Option.bind_some, ih, List.append_assoc]
    rfl

/-- The body that is read for the function of a step: its own lines and the two empty ones behind
them. -/
def readBody (p : PlannedNode) : Text × List Text :=
  (p.function, functionBody p.name p.code ++ [[], []])

theorem run_functionBlock {r : Reading} (hstage : r.stage = .functions) {p : PlannedNode}
    (hstep : p.isStep = true) (hfunction : IsFunctionName p.function) :
    r.run (functionBlock p) = some { r with bodies := readBody p :: r.bodies } := by
  obtain ⟨stage, bodies, registered, edges⟩ := r
  subst hstage
  have header := step_of_statement ⟨.functions, bodies, registered, edges⟩
    (rfl : functionHeader p.function = 'd' :: _) (by decide) (ofLine?_functionHeader hfunction)
  -- the two empty lines behind a function are gathered like lines of its body
  have lines : functionBlock p = functionHeader p.function
      :: (functionBody p.name p.code ++ [[], []]).map bodyLine := by
    rw [functionBlock_eq hstep, List.map_append]
    rfl
  rw [lines, run, header]
  exact run_bodyLines p.function [] bodies registered edges _

/-- The functions of a plan leave their bodies behind, the latest first. Induction on the
functions still to be read. -/
theorem run_functionSection {r : Reading} (hstage : r.stage = .functions) (nodes : List PlannedNode)
    (hsteps : ∀ p ∈ nodes, p.isStep = true) (hfunctions : ∀ p ∈ nodes, IsFunctionName p.function) :
    r.run (nodes.flatMap functionBlock)
      = some { r with bodies := (nodes.map readBody).reverse ++ r.bodies } := by
  induction nodes generalizing r with
  | nil => rfl
  | cons p nodes ih =>
    rw [List.forall_mem_cons] at hsteps hfunctions
    have first := run_functionBlock hstage hsteps.1 hfunctions.1
    have later := @ih { r with bodies := readBody p :: r.bodies } hstage hsteps.2 hfunctions.2
    rw [List.flatMap_cons, run_append_of_eq_some first, later, List.map_cons, List.reverse_cons,
      List.append_assoc]
    rfl

/-! ## Bodies -/

/-- The last line of a body is not empty: it is a line of code that is not blank, or the statement
that the node is not implemented. -/
theorem functionBody_ends (name : Text) (code : Option Text) :
    ∃ front c line, functionBody name code = front ++ [c :: line] := by
  have fragment : bodyLines code ≠ [] → ∃ front c line, bodyLines code = front ++ [c :: line] := by
    intro hne
    rcases List.eq_nil_or_concat' (bodyLines code) with hnil | ⟨front, line, heq⟩
    · exact absurd hnil hne
    · refine ⟨front, ?_⟩
      cases line with
      | cons c line => exact ⟨c, line, heq⟩
      | nil =>
        cases code with
        | none => exact absurd rfl hne
        | some code =>
          -- blank lines have been trimmed, so an empty line cannot stand last
          exact absurd (not_of_trimBy_eq_append heq) (by decide)
  unfold functionBody
  dsimp only
  split
  · next hstatement =>
    apply fragment
    intro hnil
    rw [hnil] at hstatement
    exact absurd hstatement (by decide)
  · exact ⟨bodyLines code, 'r', _, rfl⟩

theorem closed_readBody (p : PlannedNode) :
    closed (readBody p).2 = functionBody p.name p.code := by
  obtain ⟨front, c, line, heq⟩ := functionBody_ends p.name p.code
  have twice : functionBody p.name p.code ++ [[], []]
      = (functionBody p.name p.code ++ [[]]) ++ [[]] := by simp
  unfold closed readBody
  dsimp only
  rw [twice, List.rdropWhile_concat_pos _ _ _ rfl, List.rdropWhile_concat_pos _ _ _ rfl, heq,
    List.rdropWhile_concat_neg _ _ _ (by simp)]

theorem lookup_eq_some_of_nodup {bodies : List (Text × List Text)}
    (h : (bodies.map Prod.fst).Nodup) {entry : Text × List Text} (hentry : entry ∈ bodies) :
    bodies.lookup entry.1 = some entry.2 := by
  induction bodies with
  | nil => exact absurd hentry List.not_mem_nil
  | cons head bodies ih =>
    rw [List.map_cons, List.nodup_cons] at h
    rw [List.lookup_cons]
    rcases List.mem_cons.1 hentry with rfl | hentry
    · rw [beq_self_eq_true]
    · -- the entry in front has another name, or the names would repeat
      have other : entry.1 ≠ head.1 := fun heq => h.1 (heq ▸ List.mem_map_of_mem hentry)
      rw [beq_eq_false_iff_ne.2 other]
      exact ih h.2 hentry

/-! ## The assembly -/

theorem step_nil {r : Reading} (hstage : r.stage ≠ .functions) : r.step [] = some r := by
  obtain ⟨stage, bodies, registered, edges⟩ := r
  cases stage with
  | functions => exact absurd rfl hstage
  | assembly => rfl
  | done => rfl

theorem run_edgeGap {r : Reading} (hstage : r.stage ≠ .functions) (plan : Plan) :
    r.run (edgeGap plan) = some r := by
  unfold edgeGap
  split
  · rfl
  · show (r.step []).bind _ = some r
    rw [step_nil hstage]
    rfl

theorem step_registration {r : Reading} (hstage : r.stage = .assembly) {p : PlannedNode}
    (hfunction : IsFunctionName p.function)
    (hbody : r.bodies.lookup p.function = some (readBody p).2) :
    r.step (registration p.name p.function)
      = some { r with registered := r.registered ++ [(p.name, functionBody p.name p.code)] } := by
  rw [step_of_statement r (rfl : registration p.name p.function = 'g' :: _) (by decide)
    (ofLine?_registration p.name hfunction)]
  unfold obey
  dsimp only
  rw [hstage, literalValue?_quoted, hbody]
  dsimp only
  rw [closed_readBody]

/-- Registrations are taken down in their order. Induction on the steps still to be registered;
the bodies stay as they are. -/
theorem run_registrations {r : Reading} (hstage : r.stage = .assembly) (nodes : List PlannedNode)
    (hfunctions : ∀ p ∈ nodes, IsFunctionName p.function)
    (hbodies : ∀ p ∈ nodes, r.bodies.lookup p.function = some (readBody p).2) :
    r.run (nodes.map fun p => registration p.name p.function)
      = some { r with registered :=
          r.registered ++ nodes.map fun p => (p.name, functionBody p.name p.code) } := by
  induction nodes generalizing r with
  | nil =>
    rw [List.map_nil, List.map_nil, List.append_nil]
    rfl
  | cons p nodes ih =>
    rw [List.forall_mem_cons] at hfunctions hbodies
    have first := step_registration hstage hfunctions.1 hbodies.1
    have later := @ih
      { r with registered := r.registered ++ [(p.name, functionBody p.name p.code)] }
      hstage hfunctions.2 hbodies.2
    rw [List.map_cons, run, first, Option.bind_some, later, List.append_assoc]
    rfl

/-- The two ends that an edge of a plan is read as. -/
structure EdgeReadAs (e : PlannedEdge) (ends : Endpoint × Endpoint) : Prop where
  source_expression : IsExpression e.source
  target_expression : IsExpression e.target
  source : Endpoint.ofExpression? e.source = some ends.1
  target : Endpoint.ofExpression? e.target = some ends.2

theorem step_connection {r : Reading} (hstage : r.stage = .assembly) {e : PlannedEdge}
    {ends : Endpoint × Endpoint} (h : EdgeReadAs e ends) :
    r.step (connection e) = some { r with edges := r.edges ++ [ends] } := by
  rw [step_of_statement r (rfl : connection e = 'g' :: _) (by decide)
    (ofLine?_connection h.source_expression h.target_expression)]
  unfold obey
  dsimp only
  rw [hstage, h.source, h.target]

theorem run_connections {r : Reading} (hstage : r.stage = .assembly) {edges : List PlannedEdge}
    {ends : List (Endpoint × Endpoint)} (h : List.Forall₂ EdgeReadAs edges ends) :
    r.run (edges.map connection) = some { r with edges := r.edges ++ ends } := by
  induction h generalizing r with
  | nil =>
    rw [List.append_nil]
    rfl
  | @cons e c edges ends hedge _ ih =>
    have later := @ih { r with edges := r.edges ++ [c] } hstage
    rw [List.map_cons, run, step_connection hstage hedge, Option.bind_some, later,
      List.append_assoc]
    rfl

/-- The assembly of a plan, after its functions: all registrations, all edges, and the end. -/
theorem run_assemblySection {r : Reading} (hstage : r.stage = .functions) {plan : Plan}
    (h : plan.WellFormed)
    (hbodies : ∀ p ∈ plan.nodes, r.bodies.lookup p.function = some (readBody p).2)
    {ends : List (Endpoint × Endpoint)} (hends : List.Forall₂ EdgeReadAs plan.edges ends) :
    r.run (assemblySection plan) = some { r with
      stage := .done
      registered := r.registered ++ plan.nodes.map fun p => (p.name, functionBody p.name p.code)
      edges := r.edges ++ ends } := by
  obtain ⟨stage, bodies, registered, edges⟩ := r
  subst hstage
  have opening : run ⟨.functions, bodies, registered, edges⟩ [construction]
      = some ⟨.assembly, bodies, registered, edges⟩ := by
    rw [run, step_of_statement _ (rfl : construction = 'g' :: _) (by decide) ofLine?_construction]
    rfl
  have registrations := @run_registrations ⟨.assembly, bodies, registered, edges⟩ rfl plan.nodes
    h.functions hbodies
  have connections := @run_connections ⟨.assembly, bodies, registered
    ++ plan.nodes.map fun p => (p.name, functionBody p.name p.code), edges⟩ rfl _ _ hends
  rw [assemblySection_eq h.steps]
  simp only [List.append_assoc]
  rw [run_append_of_eq_some opening, run_append_of_eq_some registrations,
    run_append_of_eq_some (run_edgeGap (by simp) plan), run_append_of_eq_some connections, run,
    step_nil (by simp), Option.bind_some, run,
    step_of_statement _ (rfl : finalization = 'g' :: _) (by decide) ofLine?_finalization]
  rfl

end Reading

/-! ## Whole programs -/

/-- The text of a program is read to its end. It gives the steps of its plan, each name with its
own body, and what the expressions of its edges stand for. -/
theorem readProgram_source {plan : Plan} (h : plan.WellFormed) {bootstrap : Option Text} {c : Char}
    {l : Text}
    (hboot : (bootstrapSection (bootstrap.getD defaultBootstrap)).getLast? = some (c :: l))
    {ends : List (Endpoint × Endpoint)} (hends : List.Forall₂ Reading.EdgeReadAs plan.edges ends) :
    readProgram (bootstrapSection (bootstrap.getD defaultBootstrap)) (plan.source bootstrap)
      = some ⟨.done, (plan.nodes.map Reading.readBody).reverse,
          plan.nodes.map fun p => (p.name, functionBody p.name p.code), ends⟩ := by
  -- the latest body of a function is its only one
  have names : ((plan.nodes.map Reading.readBody).reverse.map Prod.fst).Nodup := by
    rw [List.map_reverse, List.map_map, List.Nodup, List.pairwise_reverse]
    exact h.functions_distinct.imp Ne.symm
  have bodies : ∀ p ∈ plan.nodes, (plan.nodes.map Reading.readBody).reverse.lookup p.function
      = some (Reading.readBody p).2 := fun p hp =>
    Reading.lookup_eq_some_of_nodup names (List.mem_reverse.2 (List.mem_map_of_mem hp))
  -- before the first function there is no body that empty lines could belong to
  have blanks : Reading.start.run [[], []] = some Reading.start := rfl
  have functions : Reading.start.run (functionSection plan)
      = some ⟨.functions, (plan.nodes.map Reading.readBody).reverse, [], []⟩ := by
    have := @Reading.run_functionSection Reading.start rfl plan.nodes h.steps h.functions
    rwa [show Reading.start.bodies = [] from rfl, List.append_nil] at this
  have assembly := @Reading.run_assemblySection
    ⟨.functions, (plan.nodes.map Reading.readBody).reverse, [], []⟩ rfl plan h bodies ends hends
  unfold readProgram
  rw [h.lines_source, sourceLines_eq plan hboot]
  simp only [List.append_assoc]
  rw [isPrefixOf?_append]
  dsimp only
  rw [Reading.run_append_of_eq_some blanks, Reading.run_append_of_eq_some functions, assembly]
  rfl

end GraphScribe
