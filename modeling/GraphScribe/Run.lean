import GraphScribe.Failure
import GraphScribe.Graph.Basic

/-!
# Runs

A run is what a step of the program did, event by event, and how it ended: with a result or with a
failure. The events before a failure are kept, so that a warning or a log record is never lost. Runs
follow each other by `bind`, which puts the events one after the other and stops at the first
failure.
-/

namespace GraphScribe

/-! ## Events -/

inductive Severity where
  | debug
  | info
  | error
  deriving DecidableEq

/-- A log record: its severity, the name of its logger, and its message. -/
structure Record where
  severity : Severity
  logger : String
  message : String
  deriving DecidableEq

structure ChatRequest where
  model : Text
  temperature : Nat
  system : Text
  user : Text
  deriving DecidableEq

/-- What can happen in a run besides its end: a warning about a graph, a log record, a graph handed
to a backend, a request sent to a chat model. -/
inductive Event where
  | warned (warning : Rejection)
  | logged (record : Record)
  | asked (graph : Graph)
  | requested (request : ChatRequest)
  deriving DecidableEq

/-! ## Runs -/

/-- The events of a step, and its end. -/
structure Run (α : Type) where
  events : List Event
  outcome : Except Failure α

namespace Run

variable {α β : Type}

/-- A run that does nothing and gives `a`. -/
def pure' (a : α) : Run α := ⟨[], .ok a⟩

def fail (failure : Failure) : Run α := ⟨[], .error failure⟩

def tell (event : Event) : Run Unit := ⟨[event], .ok ()⟩

def ofExcept (outcome : Except Failure α) : Run α := ⟨[], outcome⟩

def andThen (first : Run α) (next : α → Run β) : Run β :=
  match first.outcome with
  | .error failure => ⟨first.events, .error failure⟩
  | .ok a => ⟨first.events ++ (next a).events, (next a).outcome⟩

instance : Monad Run where
  pure := pure'
  bind := andThen

def log (severity : Severity) (logger message : String) : Run Unit :=
  tell (.logged ⟨severity, logger, message⟩)

/-- The run with its outcome put in place of an early end. -/
def caught (run : Run α) : Run (Except Failure α) := ⟨run.events, .ok run.outcome⟩

/-- The warnings of a run, in order. -/
def warnings (run : Run α) : List Rejection :=
  run.events.filterMap fun
    | .warned w => some w
    | _ => none

/-- The log records of a run, in order. -/
def records (run : Run α) : List Record :=
  run.events.filterMap fun
    | .logged r => some r
    | _ => none

/-- The graphs that a run handed to a backend, in order. -/
def graphs (run : Run α) : List Graph :=
  run.events.filterMap fun
    | .asked g => some g
    | _ => none

/-- The requests that a run sent to a chat model, in order. -/
def requests (run : Run α) : List ChatRequest :=
  run.events.filterMap fun
    | .requested q => some q
    | _ => none

/-! ### How runs follow each other -/

theorem bind_of_ok {first : Run α} {a : α} (next : α → Run β) (h : first.outcome = .ok a) :
    first >>= next = ⟨first.events ++ (next a).events, (next a).outcome⟩ := by
  show andThen first next = _
  rw [andThen, h]

theorem bind_of_error {first : Run α} {failure : Failure} (next : α → Run β)
    (h : first.outcome = .error failure) : first >>= next = ⟨first.events, .error failure⟩ := by
  show andThen first next = _
  rw [andThen, h]

/-- The warnings of one run after another are the warnings of both, in order. -/
theorem warnings_bind_of_ok {first : Run α} {a : α} (next : α → Run β) (h : first.outcome = .ok a) :
    (first >>= next).warnings = first.warnings ++ (next a).warnings := by
  rw [bind_of_ok next h]
  exact List.filterMap_append

/-- The outcome of one run after another is the outcome of the second where the first gives a
result. -/
theorem outcome_bind (first : Run α) (next : α → Run β) :
    (first >>= next).outcome = first.outcome.bind fun a => (next a).outcome := by
  cases h : first.outcome with
  | error failure => rw [bind_of_error next h]; rfl
  | ok a => rw [bind_of_ok next h]; rfl

@[simp] theorem pure_bind (a : α) (next : α → Run β) : (pure a : Run α) >>= next = next a := rfl

@[simp] theorem fail_bind (failure : Failure) (next : α → Run β) :
    (fail failure : Run α) >>= next = fail failure := rfl

end Run

end GraphScribe
