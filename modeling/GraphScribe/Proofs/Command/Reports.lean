import GraphScribe.Command.Run
import GraphScribe.Proofs.Graph.Stored
import GraphScribe.Proofs.Service

/-!
# What a run of the command reports

A run that comes to its graph file is decided by the run of `canonicalFile` on the octets of the file:
it prints the canonical graph (`Exports.run_of_ok`) or the library's own program (`Prints.run_of_ok`),
or it reports the rejection and prints nothing (`Opens.run_of_rejected`).
-/

namespace GraphScribe.Command

/-- A run that comes to its graph file: the arguments are accepted, the settings can be used, and the
path leads to a file with these octets. -/
structure Opens (world : World) (arguments : List Text) (options : Options) (settings : Settings)
    (octets : List UInt8) : Prop where
  parsed : parse arguments = .ok options
  configured : Settings.ofEnvironment world.environment = .ok settings
  short : world.files.isTooLong (Path.ofText options.file) = false
  found : world.files.entry? (Path.ofText options.file) = some (.file octets)

/-- A run that prints the canonical graph of a file. -/
def Exports (strict : Bool) (world : World) (arguments : List Text) (octets : List UInt8) : Prop :=
  ∃ options settings, Opens world arguments options settings octets ∧ options.strict = strict ∧
    options.canonical = true

/-- A run that prints the program which the library itself writes for the graph of a file. -/
def Prints (strict : Bool) (world : World) (arguments : List Text) (octets : List UInt8) : Prop :=
  ∃ options settings, Opens world arguments options settings octets ∧ options.strict = strict ∧
    options.canonical = false ∧ options.print = true ∧ options.target = some .compiler ∧
    world.backend = none

section

variable {world : World} {arguments : List Text} {options : Options} {settings : Settings}
  {octets : List UInt8} {strict : Bool} {g : Graph}

theorem Opens.run_eq (h : Opens world arguments options settings octets) :
    run world arguments = runFile world options settings (Path.ofText options.file) octets := by
  unfold run
  rw [h.parsed]
  dsimp only
  unfold runOptions
  rw [h.configured]
  dsimp only
  rw [h.short, h.found]
  rfl

theorem Opens.run_of_ok (h : Opens world arguments options settings octets)
    (accepted : (canonicalFile options.strict octets).outcome = .ok g) :
    run world arguments = runGraph world options settings (Path.ofText options.file)
      (canonicalFile options.strict octets).events g := by
  rw [h.run_eq]
  unfold runFile
  dsimp only
  rw [accepted]

/-- The report of a rejection. -/
def rejectionLine (r : Rejection) : String :=
  "[error] Graph validation failed: " ++ r.message ++ "\n"

theorem Opens.run_of_rejected {r : Rejection} (h : Opens world arguments options settings octets)
    (rejected : (canonicalFile options.strict octets).outcome = .error (.rejected r)) :
    run world arguments = ⟨.ok 1, "", rejectionLine r, world.files,
      (canonicalFile options.strict octets).events⟩ := by
  have line : errorLine s!"Graph validation failed: {r.message}" = rejectionLine r := by
    show "[error] " ++ ("Graph validation failed: " ++ r.message) ++ "\n" = rejectionLine r
    rw [← String.append_assoc]
    rfl
  rw [h.run_eq, ← line]
  unfold runFile
  dsimp only
  rw [rejected]

theorem Exports.run_of_ok (h : Exports strict world arguments octets)
    (accepted : (canonicalFile strict octets).outcome = .ok g) :
    run world arguments = ⟨.ok 0, String.ofList g.printed, "", world.files,
      (canonicalFile strict octets).events⟩ := by
  obtain ⟨options, settings, opens, rfl, hcanonical⟩ := h
  rw [opens.run_of_ok accepted]
  unfold runGraph
  rw [hcanonical]
  rfl

/-- Where no other backend takes its place, the library itself is what the target says. -/
theorem backendFor_compiler (own : world.backend = none) :
    backendFor world settings (some .compiler) = .ok (.structural none) := by
  unfold backendFor
  rw [own]
  rfl

theorem Prints.run_of_ok (h : Prints strict world arguments octets)
    (accepted : (canonicalFile strict octets).outcome = .ok g) {plan : Plan}
    (hplan : Plan.ofGraph g = .ok plan) :
    run world arguments = ⟨.ok 0, String.ofList (plan.source none), progress (some .compiler) g,
      world.files, (canonicalFile strict octets).events ++
        [.logged ((Backend.structural none).startRecord g), .asked g]⟩ := by
  obtain ⟨options, settings, opens, rfl, hcanonical, hprint, htarget, hbackend⟩ := h
  have generated : generate world settings (some .compiler) g
      = ⟨[.logged ((Backend.structural none).startRecord g), .asked g],
          .ok (plan.source none)⟩ := by
    unfold generate
    rw [backendFor_compiler hbackend]
    exact writeProgram_structural hplan none
  rw [opens.run_of_ok accepted]
  unfold runGraph
  rw [hcanonical, htarget, generated]
  show deliver world options _ _ _ (plan.source none) = _
  unfold deliver
  rw [hprint]
  rfl

theorem Prints.exists_opens (h : Prints strict world arguments octets) :
    ∃ options settings, Opens world arguments options settings octets ∧ options.strict = strict := by
  obtain ⟨options, settings, opens, hstrict, -⟩ := h
  exact ⟨options, settings, opens, hstrict⟩

end

/-! ## A world with one file -/

/-- One file with the given octets, and nothing else. -/
def worldWith (octets : List UInt8) : World where
  files := ⟨[(["graph.json".toList], octets)], []⟩
  environment := []
  backend := none
  service := fun _ => .timedOut

theorem prints_worldWith (octets : List UInt8) :
    Prints false (worldWith octets) ["graph.json".toList, "--print".toList] octets :=
  ⟨_, _, ⟨rfl, rfl, rfl, rfl⟩, rfl, rfl, rfl, rfl, rfl⟩

theorem exports_worldWith (octets : List UInt8) :
    Exports false (worldWith octets) ["--canonical".toList, "graph.json".toList] octets :=
  ⟨_, _, ⟨rfl, rfl, rfl, rfl⟩, rfl, rfl⟩

end GraphScribe.Command
