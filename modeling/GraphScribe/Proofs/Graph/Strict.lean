import GraphScribe.Graph.Canonical

/-!
# Strict runs

A lenient run goes on where a strict one stops: at the first dubious end of an edge. Both look at the
same ends in the same order, so the strict run is told by the lenient one alone (`canonical_strict`).

## The architecture

* **`judge_strict`** — the two walks over the ends of the edges side by side, by induction.
* **`checkStructure_strict`**, **`checked_strict`** — the check of a whole graph. Faults of the
  nodes come before any warning, and are the same in both.
* **`canonical_eq_fail_or_checked`** — the stages before the check do not know which of the two runs
  they belong to.
* **`warned_of_mem_canonical`** — nothing but warnings happens on the way to a canonical graph.
-/

namespace GraphScribe

/-- A strict walk gives no warning. It ends with the first warning of the lenient walk, and where that
has none, with what the lenient walk ends with. Induction on the ends still to be judged. -/
theorem judge_strict (verdicts : List (Place × Verdict)) :
    judge true verdicts = ([], (judge false verdicts).1.head?.or (judge false verdicts).2) := by
  induction verdicts with
  | nil => rfl
  | cons v rest ih =>
    obtain ⟨place, verdict⟩ := v
    cases verdict with
    | sound => exact ih
    | refused reason => rfl
    -- the lenient walk goes on from here, but only behind a warning that is already there
    | dubious reason => rfl

theorem checkStructure_strict (g : Graph) :
    checkStructure true g
      = ([], (checkStructure false g).1.head?.or (checkStructure false g).2) := by
  unfold checkStructure
  cases firstNodeFault? [] g.nodes with
  | some fault => rfl
  | none => exact judge_strict (endVerdicts g)

theorem warnings_checked (strict : Bool) (g : Graph) :
    (checked strict g).warnings = (checkStructure strict g).1 := by
  have read : ∀ (ws : List Rejection) (outcome : Except Failure Graph),
      (Run.mk (ws.map .warned) outcome).warnings = ws := by
    intro ws outcome
    unfold Run.warnings
    rw [List.filterMap_map]
    exact List.filterMap_some
  exact read _ _

/-- What a strict run ends with: the first warning of the lenient run as the reason of a rejection,
and where nothing was warned of, what the lenient run ends with. -/
def strictOutcome (lenient : Run Graph) : Except Failure Graph :=
  match lenient.warnings with
  | [] => lenient.outcome
  | w :: _ => .error (.rejected w)

theorem checked_strict (g : Graph) :
    (checked true g).warnings = [] ∧ (checked true g).outcome = strictOutcome (checked false g) := by
  have strict := checkStructure_strict g
  have silent : (checked true g).warnings = [] := by
    rw [warnings_checked, strict]
  refine ⟨silent, ?_⟩
  unfold strictOutcome
  rw [warnings_checked]
  unfold checked
  rw [strict]
  cases checkStructure false g with
  | mk warnings fault =>
    cases warnings with
    | nil => cases fault <;> rfl
    | cons w rest => rfl

/-- A value fails before its structure is looked at, or its run is the check of some graph. Which of
the two does not depend on whether the check is strict. -/
theorem canonical_eq_fail_or_checked (value : Json) :
    (∃ failure, ∀ strict, canonical strict value = Run.fail failure) ∨
      ∃ g, ∀ strict, canonical strict value = checked strict g := by
  cases hdraft : cleanGraph value with
  | error rejection =>
    refine Or.inl ⟨.rejected rejection, fun strict => ?_⟩
    unfold canonical
    rw [hdraft]
    rfl
  | ok draft =>
    cases hsealed : draft.seal with
    | error failure =>
      refine Or.inl ⟨failure, fun strict => ?_⟩
      unfold canonical
      rw [hdraft]
      show Run.ofExcept draft.seal >>= checked strict = _
      rw [hsealed]
      rfl
    | ok g =>
      refine Or.inr ⟨g, fun strict => ?_⟩
      unfold canonical
      rw [hdraft]
      show Run.ofExcept draft.seal >>= checked strict = _
      rw [hsealed]
      rfl

/-- All that happens on the way to a canonical graph are warnings. -/
theorem warned_of_mem_canonical {strict : Bool} {value : Json} {e : Event}
    (h : e ∈ (canonical strict value).events) : ∃ w, e = .warned w := by
  rcases canonical_eq_fail_or_checked value with ⟨failure, hrun⟩ | ⟨g, hrun⟩
  · rw [hrun] at h
    exact absurd h List.not_mem_nil
  · rw [hrun] at h
    obtain ⟨w, -, rfl⟩ := List.mem_map.1 h
    exact ⟨w, rfl⟩

theorem warned_of_mem_canonicalRequest {strict : Bool} {body : Json} {e : Event}
    (h : e ∈ (canonicalRequest strict body).events) : ∃ w, e = .warned w := by
  cases body with
  | object members => exact warned_of_mem_canonical h
  | _ => exact absurd h List.not_mem_nil

/-- A strict run is silent, and ends as the lenient run does where that is silent too. Otherwise it
ends with a rejection in the words of the first warning of the lenient run, whatever the lenient run
goes on to accept or to refuse. -/
theorem canonical_strict (value : Json) :
    (canonical true value).warnings = [] ∧
      match (canonical false value).warnings.map Rejection.message with
      | [] => (canonical true value).outcome = (canonical false value).outcome
      | text :: _ => ∃ r, (canonical true value).outcome = .error (.rejected r) ∧
          r.message = text := by
  rcases canonical_eq_fail_or_checked value with ⟨failure, hfail⟩ | ⟨g, hchecked⟩
  · rw [hfail true, hfail false]
    exact ⟨rfl, rfl⟩
  · obtain ⟨silent, outcome⟩ := checked_strict g
    rw [hchecked true, hchecked false]
    refine ⟨silent, ?_⟩
    rw [outcome]
    unfold strictOutcome
    cases (checked false g).warnings with
    | nil => rfl
    | cons w rest => exact ⟨w, rfl, rfl⟩

end GraphScribe
