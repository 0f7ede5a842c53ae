import GraphScribe.Proofs.Program.Planning

/-!
# What the service does

A graph that has been made canonical is handed to the backend once, and what the backend writes is a
program or a failure in the backend's name (`writeProgram_eq`). The library itself writes for an
accepted value what it compiles the value to (`outcome_transpile_structural`); a chat model is sent
one request, unless there is no time for it (`Generator.generate_of_live`,
`Generator.generate_of_expired`).
-/

namespace GraphScribe

/-! ## Writing -/

namespace Backend

/-- The record of a graph's way to a backend. -/
def startRecord (backend : Backend) (g : Graph) : Record where
  severity := .info
  logger := "flowgraph.service"
  message :=
    s!"Transpiling graph with {String.ofList backend.name} backend {Generator.sizeInWords g}"

/-- What counts as a program of the backend: what has a visible character. -/
def judge (backend : Backend) (written : Option Text) : Except Failure Text :=
  if Text.isBlank (written.getD []) then .error (.generation (.noCode backend.name))
  else .ok (written.getD [])

variable {backend : Backend} {written : Option Text}

theorem judge_of_blank (h : Text.isBlank (written.getD []) = true) :
    backend.judge written = .error (.generation (.noCode backend.name)) :=
  if_pos h

theorem judge_of_visible {code : Text} (h : Text.isBlank code = false) :
    backend.judge (some code) = .ok code := by
  have visible : ¬ Text.isBlank ((some code).getD []) = true := by
    rw [Option.getD_some, h]
    exact Bool.false_ne_true
  exact if_neg visible

/-- What is judged to be a program is a text of the backend's, as it stands, with a visible
character. -/
theorem judge_eq_ok_iff {code : Text} :
    backend.judge written = .ok code ↔ written = some code ∧ Text.isBlank code = false := by
  constructor
  · intro h
    cases hblank : Text.isBlank (written.getD []) with
    | true =>
      rw [judge_of_blank hblank] at h
      cases h
    | false =>
      cases written with
      | none => cases hblank
      | some text =>
        have visible : Text.isBlank text = false := hblank
        rw [judge_of_visible visible, Except.ok.injEq] at h
        exact h ▸ ⟨rfl, visible⟩
  · rintro ⟨rfl, visible⟩
    exact judge_of_visible visible

end Backend

theorem writeProgram_eq (backend : Backend) (g : Graph) :
    writeProgram backend g
      = ⟨.logged (backend.startRecord g) :: .asked g :: (backend.write g).events,
          (backend.write g).outcome.bind backend.judge⟩ := by
  have rest : writeProgram backend g
      = Run.tell (.logged (backend.startRecord g)) >>= fun _ => Run.tell (.asked g) >>= fun _ =>
          backend.write g >>= fun written => Run.ofExcept (backend.judge written) := by
    unfold writeProgram
    have judged : ∀ written : Option Text,
        (if Text.isBlank (written.getD []) then Run.fail (.generation (.noCode backend.name))
          else pure (written.getD []) : Run Text) = Run.ofExcept (backend.judge written) := by
      intro written
      unfold Backend.judge
      split
      · rfl
      · rfl
    simp only [judged]
    rfl
  rw [rest, Run.bind_of_ok _ rfl, Run.bind_of_ok _ rfl]
  cases hwritten : (backend.write g).outcome with
  | error failure =>
    rw [Run.bind_of_error _ hwritten]
    rfl
  | ok written =>
    rw [Run.bind_of_ok _ hwritten]
    show (⟨_ :: _ :: ((backend.write g).events ++ []), _⟩ : Run Text) = _
    rw [List.append_nil]
    rfl

theorem outcome_writeProgram_eq_ok_iff {backend : Backend} {g : Graph} {code : Text} :
    (writeProgram backend g).outcome = .ok code ↔
      (backend.write g).outcome = .ok (some code) ∧ Text.isBlank code = false := by
  rw [writeProgram_eq]
  constructor
  · intro h
    obtain ⟨written, hwritten, judged⟩ := bind_eq_ok_iff.1 h
    obtain ⟨rfl, visible⟩ := Backend.judge_eq_ok_iff.1 judged
    exact ⟨hwritten, visible⟩
  · intro ⟨hwritten, visible⟩
    exact bind_eq_ok_iff.2 ⟨some code, hwritten, Backend.judge_eq_ok_iff.2 ⟨rfl, visible⟩⟩

/-- No graph is handed to a backend among warnings and a record behind them. -/
theorem asked_not_mem {warnings : List Event} (h : ∀ e ∈ warnings, ∃ w, e = .warned w)
    (record : Record) (g : Graph) : .asked g ∉ warnings ++ [.logged record] := by
  intro hmem
  rcases List.mem_append.1 hmem with hmem | hmem
  · obtain ⟨w, hw⟩ := h _ hmem
    cases hw
  · cases List.mem_singleton.1 hmem

/-! ## The library as its own backend -/

theorem Plan.isBlank_source (plan : Plan) (bootstrap : Option Text) :
    Text.isBlank (plan.source bootstrap) = false := by
  obtain ⟨middle, heq⟩ := plan.exists_source_eq bootstrap
  rw [heq]
  rfl

theorem Graph.source_of_plan {g : Graph} {plan : Plan} (h : Plan.ofGraph g = .ok plan)
    (bootstrap : Option Text) : g.source bootstrap = .ok (plan.source bootstrap) := by
  unfold Graph.source
  rw [h]
  rfl

theorem Backend.write_structural {g : Graph} {plan : Plan} (h : Plan.ofGraph g = .ok plan)
    (bootstrap : Option Text) :
    (Backend.structural bootstrap).write g = ⟨[], .ok (some (plan.source bootstrap))⟩ := by
  show Run.ofExcept (((g.source bootstrap).map some).mapError Failure.rejected) = _
  rw [Graph.source_of_plan h]
  rfl

theorem writeProgram_structural {g : Graph} {plan : Plan} (h : Plan.ofGraph g = .ok plan)
    (bootstrap : Option Text) :
    writeProgram (.structural bootstrap) g
      = ⟨[.logged ((Backend.structural bootstrap).startRecord g), .asked g],
          .ok (plan.source bootstrap)⟩ := by
  rw [writeProgram_eq, Backend.write_structural h]
  show (⟨_, (Backend.structural bootstrap).judge (some (plan.source bootstrap))⟩ : Run Text) = _
  rw [Backend.judge_of_visible (plan.isBlank_source bootstrap)]

theorem compile_of_error {strict : Bool} {value : Json} {failure : Failure}
    (h : (canonical strict value).outcome = .error failure) (bootstrap : Option Text) :
    (compile strict bootstrap value).outcome = .error failure := by
  unfold compile
  rw [Run.outcome_bind, h]
  rfl

/-- What can go wrong when a value is compiled goes wrong before the program is written. -/
theorem outcome_compile_eq_error_iff (strict : Bool) (bootstrap : Option Text) (value : Json)
    (failure : Failure) : (compile strict bootstrap value).outcome = .error failure ↔
      (canonical strict value).outcome = .error failure := by
  refine ⟨fun h => ?_, fun h => compile_of_error h bootstrap⟩
  cases hcanonical : (canonical strict value).outcome with
  | error failure' =>
    rw [compile_of_error hcanonical] at h
    cases h
    rfl
  | ok g =>
    obtain ⟨plan, -, compiled⟩ := exists_plan_of_canonical hcanonical
    rw [compiled] at h
    cases h

theorem outcome_compile_eq_ok_iff (strict : Bool) (bootstrap : Option Text) (value : Json)
    (code : Text) : (compile strict bootstrap value).outcome = .ok code ↔
      ∃ g plan, (canonical strict value).outcome = .ok g ∧ Plan.ofGraph g = .ok plan ∧
        plan.source bootstrap = code := by
  cases hcanonical : (canonical strict value).outcome with
  | error failure =>
    rw [compile_of_error hcanonical]
    exact iff_of_false (fun h => by cases h) fun ⟨_, _, h, _⟩ => by cases h
  | ok g =>
    obtain ⟨plan, hplan, compiled⟩ := exists_plan_of_canonical hcanonical
    rw [compiled, Except.ok.injEq]
    constructor
    · exact fun h => ⟨g, plan, rfl, hplan, h⟩
    · rintro ⟨g', plan', hg, hplan', hcode⟩
      cases hg
      rw [hplan] at hplan'
      cases hplan'
      exact hcode

/-! ## Generation by a chat model -/

namespace Generator

/-- The record of a request. -/
def startRecord (generator : Generator) (g : Graph) : Record where
  severity := .info
  logger := "flowgraph.generator.client"
  message := s!"Requesting generation from {String.ofList generator.model} {sizeInWords g}"

/-- What becomes of the reply to a request. -/
def settle (generator : Generator) : ChatReply → Except Failure Text
  | .completion choices => (Reply.program (firstContent choices)).mapError .generation
  | .failed words => .error (.generation (.requestFailed words))
  | .timedOut => .error (.generation (.timedOut generator.timeout))
  | .cancelled => .error .cancelled

variable {generator : Generator}

theorem generate_of_expired (h : generator.timeout.isAtMostZero = true) (g : Graph) :
    generator.generate g = ⟨[.logged (generator.startRecord g)],
      .error (.generation (.timedOut generator.timeout))⟩ := by
  unfold generate
  rw [if_pos h]
  rfl

theorem generate_of_live (h : generator.timeout.isAtMostZero = false) (g : Graph) :
    generator.generate g
      = ⟨[.logged (generator.startRecord g), .requested (generator.request g)],
          generator.settle (generator.service (generator.request g))⟩ := by
  have live : ¬ generator.timeout.isAtMostZero = true := by
    rw [h]
    exact Bool.false_ne_true
  unfold generate
  rw [if_neg live]
  dsimp only
  cases generator.service (generator.request g) <;> rfl

end Generator

/-! ## The service as a whole -/

theorem transpile_eq_of_error {strict : Bool} {value : Json} {failure : Failure}
    (h : (canonical strict value).outcome = .error failure) (backend : Backend) :
    transpile strict backend value = ⟨(canonical strict value).events, .error failure⟩ :=
  Run.bind_of_error _ h

theorem transpile_of_error {strict : Bool} {value : Json} {failure : Failure}
    (h : (canonical strict value).outcome = .error failure) (backend : Backend) :
    (transpile strict backend value).outcome = .error failure := by
  rw [transpile_eq_of_error h]

theorem transpile_eq_of_ok {strict : Bool} {value : Json} {g : Graph}
    (h : (canonical strict value).outcome = .ok g) (backend : Backend) :
    transpile strict backend value
      = ⟨(canonical strict value).events ++ (writeProgram backend g).events,
          (writeProgram backend g).outcome⟩ :=
  Run.bind_of_ok _ h

/-- The library as a backend gives what compiling gives, and fails as compiling fails. -/
theorem outcome_transpile_structural (strict : Bool) (bootstrap : Option Text) (value : Json) :
    (transpile strict (.structural bootstrap) value).outcome
      = (compile strict bootstrap value).outcome := by
  cases hcanonical : (canonical strict value).outcome with
  | error failure => rw [transpile_of_error hcanonical, compile_of_error hcanonical]
  | ok g =>
    obtain ⟨plan, hplan, compiled⟩ := exists_plan_of_canonical hcanonical
    rw [compiled, transpile_eq_of_ok hcanonical, writeProgram_structural hplan]

end GraphScribe
