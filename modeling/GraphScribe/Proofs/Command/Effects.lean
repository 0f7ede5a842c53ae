import GraphScribe.Proofs.Command.FileTree
import GraphScribe.Proofs.Command.Reports

/-!
# What a run of the command leaves behind

A run of the command does all that it was asked for or nothing (`run_effects`). There are three ways
for it to end: it fails, and neither prints anything nor touches a file (`Failed`); it prints what it
was asked for, and touches no file (`Shown`); or it writes the program of its backend to the file for
it, and touches no other file (`Wrote`).

## The architecture

* **`Shows`**, **`Writes`**: what a run is asked for and has all it takes for. It then ends with the
  status 0 (`Shows.exit_eq`, `Writes.exit_eq`).
* **`writeInto_program`**: what comes of the file tree when a program is written.
* **`ends_deliver`**, **`ends_runGraph`**, **`ends_runFile`**, **`ends_runOptions`**: the stages of the
  run, from the last one to the whole, each gone through once.
-/

namespace GraphScribe.Command

/-! ## What a run is asked for -/

/-- The name of the program for a graph file. -/
def programFor (file : Text) : Text := Path.programFileName (Path.stemOf (Path.ofText file).lastName)

/-- The file in a directory for the program of a graph file. -/
def programPath (directory file : Text) : Path := (Path.ofText directory).child (programFor file)

/-- The graph file of the run is accepted as the graph. -/
def Accepts (world : World) (arguments : List Text) (options : Options) (settings : Settings)
    (g : Graph) : Prop :=
  ∃ octets, Opens world arguments options settings octets ∧
    (canonicalFile options.strict octets).outcome = .ok g

/-- The backend of the run generates the text for the graph, and something of it is visible. -/
def Generates (world : World) (settings : Settings) (target : Option Strategy) (g : Graph)
    (text : Text) : Prop :=
  ∃ backend, backendFor world settings target = .ok backend ∧
    (backend.write g).outcome = .ok (some text) ∧ Text.isBlank text = false

/-- The run is asked to print, and this is what it has to print. -/
inductive Shows (world : World) (arguments : List Text) : Text → Prop
  | help (asked : parse arguments = .error .help) : Shows world arguments help
  | graph {options : Options} {settings : Settings} {g : Graph}
      (accepts : Accepts world arguments options settings g) (canonical : options.canonical = true) :
      Shows world arguments g.printed
  | program {options : Options} {settings : Settings} {g : Graph} {text : Text}
      (accepts : Accepts world arguments options settings g) (canonical : options.canonical = false)
      (print : options.print = true) (generates : Generates world settings options.target g text) :
      Shows world arguments text

/-- The run is not asked to print, and this is what it has to write for its graph file into a
directory, which makes the files what they are `after`. -/
structure Writes (world : World) (arguments : List Text) (directory file text : Text)
    (after : FileTree) (options : Options) (settings : Settings) (g : Graph) : Prop where
  accepts : Accepts world arguments options settings g
  canonical : options.canonical = false
  print : options.print = false
  out : options.out = some directory
  input : options.file = file
  generates : Generates world settings options.target g text
  succeeds : world.files.writeInto (Path.ofText directory) (programFor file) (Utf8.encode text)
    = (after, .ok ())

/-- The run has all it takes for what it is asked for. -/
def Able (world : World) (arguments : List Text) : Prop :=
  (∃ text, Shows world arguments text) ∨
    ∃ directory file text after options settings g,
      Writes world arguments directory file text after options settings g

/-! ## The three ends of a run -/

/-- A run that failed. It may have made directories. -/
structure Failed (world : World) (finished : Finished) : Prop where
  exit : finished.exit ≠ .ok 0
  silent : finished.stdout = ""
  files : finished.files.files = world.files.files

/-- A run that printed what it was asked for. -/
structure Shown (world : World) (arguments : List Text) (finished : Finished) (text : Text) : Prop
    where
  exit : finished.exit = .ok 0
  shows : Shows world arguments text
  printed : finished.stdout = String.ofList text
  files : finished.files = world.files

/-- The files afterwards are the files before with one of them written: it is found under its path, and
at every other place is what was there. -/
structure WrittenTo (path : Path) (octets : List UInt8) (before after : FileTree) : Prop where
  written : after.entry? path = some (.file octets)
  others : ∀ place, after.file? place =
    if place = FileTree.placeOf path then some octets else before.file? place

/-- A run that wrote the program of a graph file into a directory. -/
structure Wrote (world : World) (arguments : List Text) (finished : Finished)
    (directory file text : Text) : Prop where
  exit : finished.exit = .ok 0
  silent : finished.stdout = ""
  writes : ∃ options settings g,
    Writes world arguments directory file text finished.files options settings g
  files : WrittenTo (programPath directory file) (Utf8.encode text) world.files finished.files

/-- The run ended in one of the three ways. -/
def Ends (world : World) (arguments : List Text) (finished : Finished) : Prop :=
  Failed world finished ∨ (∃ text, Shown world arguments finished text) ∨
    ∃ directory file text, Wrote world arguments finished directory file text

/-! ## Generating and writing -/

theorem outcome_generate_eq_ok_iff (world : World) (settings : Settings) (target : Option Strategy)
    (g : Graph) (text : Text) : (generate world settings target g).outcome = .ok text ↔
      Generates world settings target g text := by
  unfold generate
  rw [Run.outcome_bind]
  constructor
  · intro h
    obtain ⟨backend, hbackend, hwritten⟩ := bind_eq_ok_iff.1 h
    exact ⟨backend, hbackend, outcome_writeProgram_eq_ok_iff.1 hwritten⟩
  · intro ⟨backend, hbackend, hwritten⟩
    exact bind_eq_ok_iff.2 ⟨backend, hbackend, outcome_writeProgram_eq_ok_iff.2 hwritten⟩

theorem programFor_ne_parentName (file : Text) : programFor file ≠ FileTree.parentName := by
  intro h
  have lengths := congrArg List.length h
  have extension : ".py".toList.length = 3 := rfl
  have parent : FileTree.parentName.length = 2 := rfl
  unfold programFor Path.programFileName at lengths
  rw [List.length_append, extension, parent] at lengths
  omega

/-- A program is written to its file, or no file is touched. -/
theorem writeInto_program (tree : FileTree) (directory file text : Text) :
    ∃ after outcome, tree.writeInto (Path.ofText directory) (programFor file) (Utf8.encode text)
        = (after, outcome) ∧
      ((∃ failure, outcome = .error failure ∧ after.files = tree.files) ∨
        outcome = .ok () ∧ WrittenTo (programPath directory file) (Utf8.encode text) tree after) := by
  have name := programFor_ne_parentName file
  obtain ⟨made, kept, ⟨failure, heq⟩ | ⟨leads, free, heq⟩⟩ :=
    tree.writeInto_cases (Path.ofText directory) (programFor file) (Utf8.encode text)
  · exact ⟨_, _, heq, Or.inl ⟨failure, rfl, kept.files⟩⟩
  · refine ⟨_, _, heq, Or.inr ⟨rfl, FileTree.entry?_put name leads free _, fun place => ?_⟩⟩
    unfold programPath
    rw [FileTree.file?_put, FileTree.placeOf_child _ name]
    unfold FileTree.file?
    rw [kept.files]

/-! ## Runs that have all it takes -/

section

variable {world : World} {arguments : List Text} {options : Options} {settings : Settings}
  {g : Graph} {text : Text}

theorem Accepts.exists_run_eq (h : Accepts world arguments options settings g) :
    ∃ events, run world arguments
      = runGraph world options settings (Path.ofText options.file) events g := by
  obtain ⟨octets, opens, accepted⟩ := h
  exact ⟨_, opens.run_of_ok accepted⟩

/-- A run that is not asked for the canonical graph delivers what its backend generates. -/
theorem Accepts.exists_run_eq_deliver (h : Accepts world arguments options settings g)
    (canonical : options.canonical = false)
    (generates : Generates world settings options.target g text) :
    ∃ stderr events, run world arguments
      = deliver world options (Path.ofText options.file) stderr events text := by
  obtain ⟨events, heq⟩ := h.exists_run_eq
  have generated := (outcome_generate_eq_ok_iff _ _ _ _ _).2 generates
  refine ⟨progress options.target g, events ++ (generate world settings options.target g).events, ?_⟩
  rw [heq]
  unfold runGraph
  rw [canonical]
  dsimp only
  rw [generated]
  rfl

/-- To deliver a program that is not to be printed is to write it. -/
theorem exists_deliver_eq {directory : Text} (print : options.print = false)
    (out : options.out = some directory) {after : FileTree} {outcome : Except Failure Unit}
    (written : world.files.writeInto (Path.ofText directory) (programFor options.file)
      (Utf8.encode text) = (after, outcome)) (stderr : String) (events : List Event) :
    ∃ stderr', deliver world options (Path.ofText options.file) stderr events text
      = ⟨outcome.map fun _ => 0, "", stderr', after, events⟩ := by
  unfold programFor at written
  unfold deliver
  rw [print, out]
  dsimp only
  rw [written]
  cases outcome with
  | error failure => exact ⟨stderr, rfl⟩
  | ok _ => exact ⟨_, rfl⟩

theorem Shows.exit_eq (h : Shows world arguments text) : (run world arguments).exit = .ok 0 := by
  cases h with
  | help asked =>
    unfold run
    rw [asked]
    rfl
  | graph accepts canonical =>
    obtain ⟨events, heq⟩ := accepts.exists_run_eq
    rw [heq]
    unfold runGraph
    rw [canonical]
    rfl
  | program accepts canonical print generates =>
    obtain ⟨stderr, events, heq⟩ := accepts.exists_run_eq_deliver canonical generates
    rw [heq]
    unfold deliver
    rw [print]
    rfl

theorem Writes.exit_eq {directory file : Text} {after : FileTree}
    (h : Writes world arguments directory file text after options settings g) :
    (run world arguments).exit = .ok 0 := by
  obtain ⟨stderr, events, heq⟩ := h.accepts.exists_run_eq_deliver h.canonical h.generates
  obtain rfl := h.input
  obtain ⟨stderr', heq'⟩ := exists_deliver_eq h.print h.out h.succeeds stderr events
  rw [heq, heq']
  rfl

/-! ## Stage by stage -/

theorem ends_failed {exit : Except Failure Nat} (h : exit ≠ .ok 0) (stderr : String)
    (events : List Event) : Ends world arguments ⟨exit, "", stderr, world.files, events⟩ :=
  Or.inl ⟨h, rfl, rfl⟩

theorem ends_deliver (accepts : Accepts world arguments options settings g)
    (canonical : options.canonical = false)
    (generates : Generates world settings options.target g text) (stderr : String)
    (events : List Event) :
    Ends world arguments (deliver world options (Path.ofText options.file) stderr events text) := by
  cases print : options.print with
  | true =>
    unfold deliver
    rw [print]
    exact Or.inr (Or.inl ⟨text, rfl, .program accepts canonical print generates, rfl, rfl⟩)
  | false =>
    cases out : options.out with
    | none =>
      unfold deliver
      rw [print, out]
      exact ends_failed (by simp) _ _
    | some directory =>
      obtain ⟨after, outcome, written, effect⟩ :=
        writeInto_program world.files directory options.file text
      obtain ⟨stderr', heq⟩ := exists_deliver_eq print out written stderr events
      rw [heq]
      rcases effect with ⟨failure, rfl, files⟩ | ⟨rfl, files⟩
      · exact Or.inl ⟨by simp [Except.map], rfl, files⟩
      · exact Or.inr (Or.inr ⟨directory, options.file, text, rfl, rfl, ⟨options, settings, g, accepts,
          canonical, print, out, rfl, generates, written⟩, files⟩)

theorem ends_runGraph (accepts : Accepts world arguments options settings g) (events : List Event) :
    Ends world arguments (runGraph world options settings (Path.ofText options.file) events g) := by
  unfold runGraph
  split
  · next canonical => exact Or.inr (Or.inl ⟨g.printed, rfl, .graph accepts canonical, rfl, rfl⟩)
  next canonical =>
  dsimp only
  split
  · next text generated =>
    exact ends_deliver accepts (eq_false_of_ne_true canonical)
      ((outcome_generate_eq_ok_iff _ _ _ _ _).1 generated) _ _
  · exact ends_failed (by simp) _ _
  · exact ends_failed (by simp) _ _
  · exact ends_failed (by simp) _ _

theorem ends_runFile {octets : List UInt8} (opens : Opens world arguments options settings octets) :
    Ends world arguments (runFile world options settings (Path.ofText options.file) octets) := by
  unfold runFile
  dsimp only
  split
  · next g accepted => exact ends_runGraph ⟨octets, opens, accepted⟩ _
  · exact ends_failed (by simp) _ _
  · exact ends_failed (by simp) _ _
  · exact ends_failed (by simp) _ _

theorem ends_runOptions (parsed : parse arguments = .ok options) :
    Ends world arguments (runOptions world options) := by
  unfold runOptions
  split
  · exact ends_failed (by simp) _ _
  next settings configured =>
  dsimp only
  split
  · exact ends_failed (by simp) _ _
  next short =>
  split
  · exact ends_failed (by simp) _ _
  · exact ends_failed (by simp) _ _
  · next octets found =>
    exact ends_runFile ⟨parsed, configured, eq_false_of_ne_true short, found⟩

theorem ends_run (world : World) (arguments : List Text) :
    Ends world arguments (run world arguments) := by
  unfold run
  split
  · next options parsed => exact ends_runOptions parsed
  · next asked => exact Or.inr (Or.inl ⟨help, rfl, .help asked, rfl, rfl⟩)
  · exact ends_failed (by simp) _ _

end

/-! ## Whole runs -/

/-- A run of the command does all that it was asked for or nothing. If it does not end with the status
0, it has printed nothing and touched no file. If it does, it has printed what it was asked to print
and touched no file; or it has printed nothing, and the text that its backend generated is in the
file for it, every other file being what it was. It ends with the status 0 exactly if it has all it
takes. -/
theorem run_effects (world : World) (arguments : List Text) :
    (Failed world (run world arguments) ∨ (∃ text, Shown world arguments (run world arguments) text) ∨
      ∃ directory file text, Wrote world arguments (run world arguments) directory file text) ∧
    ((run world arguments).exit = .ok 0 ↔ Able world arguments) := by
  refine ⟨ends_run world arguments, fun h => ?_, ?_⟩
  · rcases ends_run world arguments with failed | ⟨text, shown⟩ | ⟨directory, file, text, wrote⟩
    · exact absurd h failed.exit
    · exact Or.inl ⟨text, shown.shows⟩
    · exact Or.inr ⟨directory, file, text, _, wrote.writes⟩
  · rintro (⟨text, shows'⟩ | ⟨directory, file, text, after, options, settings, g, writes⟩)
    · exact shows'.exit_eq
    · exact writes.exit_eq

/-- Beside a graph file and nothing else, a run puts the directory for programs and the program. -/
example : (run (worldWith (Utf8.encode "{}".toList)) ["graph.json".toList]).files.files.map Prod.fst
    = [["graph.json".toList], ["compiled".toList, "graph.py".toList]] := by decide +kernel

end GraphScribe.Command
