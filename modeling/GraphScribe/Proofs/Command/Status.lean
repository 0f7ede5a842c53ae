import GraphScribe.Proofs.Command.Effects
import GraphScribe.Proofs.Json.Complete

/-!
# The status that a run of the command ends with

A run that comes to its graph file, with the library itself as its target, ends with the status 0, or
with the status 1 and a line that says what is wrong with the file. There is one gap: some files are
refused with a failure that no line is written for, and that failure is the end of the run
(`run_reports`).

## The architecture

* **`Unspoken`**, **`Refuses`**: the two ways in which a file can be no graph, told from its octets.
* **`canonicalFile_cases`**: there is no third way.
* **`run_of_unspoken`**, **`run_of_refused`**, **`endsKnown_of_accepted`**: a run of the command on a file
  of each kind.
-/

namespace GraphScribe

/-- The value that is made canonical when a document is: the graph in the request body that it is, or
the document itself. -/
def Json.documentGraph (document : Json) : Json :=
  match document.get? "graphJSON" with
  | some _ => document.bodyGraph
  | none => document

theorem ends_canonicalDocument (strict : Bool) (document : Json) :
    Ends document.documentGraph (canonicalDocument strict document).outcome := by
  unfold canonicalDocument Json.documentGraph
  cases document.get? "graphJSON" with
  | none => exact ends_canonical strict document
  | some value => exact ends_canonicalRequest strict document

namespace Command

/-! ## Files that hold no graph -/

/-- The octets of a file make a run fail in a way that no line is written for: they are no UTF-8, they
go beyond a limit of the reader, or a lone half has remained in the graph. -/
inductive Unspoken (octets : List UInt8) : Failure → Prop
  | undecodable {fault : Utf8.Fault} (undecoded : Utf8.decode .strict octets = .error fault) :
      Unspoken octets (.undecodable fault)
  | limit {fault : Json.Fault} (unread : documentJson octets = .error (.unreadable fault))
      (beyond : fault.IsLimit) : Unspoken octets (.unreadable fault)
  | half {document : Json} {position : Nat} {run : RawText}
      (read : documentJson octets = .ok document) (blocked : document.documentGraph.Blocked) :
      Unspoken octets (.unencodable position run)

/-- The octets of a file are refused with a message: they are no JSON, or their graph is rejected. -/
inductive Refuses (strict : Bool) (octets : List UInt8) : String → Prop
  | malformed {wanted : Json.Departure} {position line column : Nat}
      (unread : documentJson octets
        = .error (.unreadable (.departure wanted position line column))) :
      Refuses strict octets
        ("Invalid JSON: " ++ (Json.Fault.departure wanted position line column).message)
  | rejected {r : Rejection} (rejected : (canonicalFile strict octets).outcome = .error (.rejected r)) :
      Refuses strict octets ("Graph validation failed: " ++ r.message)

section

variable {strict : Bool} {octets : List UInt8}

theorem canonicalFile_of_unread {failure : Failure} (h : documentJson octets = .error failure) :
    canonicalFile strict octets = .fail failure := by
  unfold canonicalFile
  rw [h]
  rfl

theorem documentJson_of_undecoded {fault : Utf8.Fault} (h : Utf8.decode .strict octets = .error fault) :
    documentJson octets = .error (.undecodable fault) := by
  unfold documentJson
  rw [h]
  rfl

/-- The octets of a file are read as a document, or it is known why they are not. -/
theorem documentJson_cases (octets : List UInt8) :
    (∃ document, documentJson octets = .ok document) ∨
      (∃ fault, Utf8.decode .strict octets = .error fault) ∨
      ∃ fault, documentJson octets = .error (.unreadable fault) := by
  cases hdecode : Utf8.decode .strict octets with
  | error fault => exact Or.inr (Or.inl ⟨fault, rfl⟩)
  | ok decoded =>
    have read : documentJson octets
        = (Json.readDocument decoded.unifyLineEnds).mapError .unreadable := by
      unfold documentJson
      rw [hdecode]
      rfl
    rw [read]
    cases Json.readDocument decoded.unifyLineEnds with
    | ok document => exact Or.inl ⟨document, rfl⟩
    | error fault => exact Or.inr (Or.inr ⟨fault, rfl⟩)

/-- Octets that fail a run without a message are not made canonical, for such a reason. -/
theorem exists_outcome_of_unspoken (h : ∃ failure, Unspoken octets failure) :
    ∃ failure, Unspoken octets failure ∧
      (canonicalFile strict octets).outcome = .error failure := by
  obtain ⟨failure, h⟩ := h
  cases h with
  | undecodable undecoded =>
    refine ⟨_, .undecodable undecoded, ?_⟩
    rw [canonicalFile_of_unread (documentJson_of_undecoded undecoded)]
    rfl
  | limit unread beyond =>
    refine ⟨_, .limit unread beyond, ?_⟩
    rw [canonicalFile_of_unread unread]
    rfl
  | half read blocked =>
    obtain ⟨position, run, lost⟩ := (ends_canonicalDocument strict _).blocked blocked
    refine ⟨.unencodable position run, .half read blocked, ?_⟩
    rw [canonicalFile_of_document read, lost]

/-- A file is accepted or refused with a message, unless it makes a run fail without one. -/
theorem canonicalFile_cases (h : ¬ ∃ failure, Unspoken octets failure) :
    (∃ g, (canonicalFile strict octets).outcome = .ok g) ∨ ∃ message, Refuses strict octets message := by
  rcases documentJson_cases octets with ⟨document, read⟩ | ⟨fault, undecoded⟩ | ⟨fault, unread⟩
  · have free : ¬ document.documentGraph.Blocked :=
      fun blocked => h ⟨.unencodable 0 [], .half read blocked⟩
    have same : (canonicalFile strict octets).outcome = (canonicalDocument strict document).outcome := by
      rw [canonicalFile_of_document read]
    rcases (ends_canonicalDocument strict document).free free with ⟨g, accepted⟩ | ⟨r, rejected, -⟩
    · exact Or.inl ⟨g, same.trans accepted⟩
    · exact Or.inr ⟨_, .rejected (same.trans rejected)⟩
  · exact absurd ⟨_, .undecodable undecoded⟩ h
  · cases fault with
    | departure wanted position line column => exact Or.inr ⟨_, .malformed unread⟩
    | digits count => exact absurd ⟨_, .limit unread trivial⟩ h
    | nesting container => exact absurd ⟨_, .limit unread trivial⟩ h

end

/-! ## Runs -/

/-- The program for an accepted graph cannot be written where the run is asked to write it. -/
def Unwritable (world : World) (options : Options) (failure : Failure) : Prop :=
  (options.out = none ∧ failure = .pathMissing) ∨
    ∃ directory text after, options.out = some directory ∧
      world.files.writeInto (Path.ofText directory) (programFor options.file) (Utf8.encode text)
        = (after, .error failure)

/-- A run ends with the status 0 on an accepted graph, or with the status 1 and the message about a
file that is refused, on a line for errors. It ends in another way only if it is asked to write a
program and cannot. -/
inductive EndsKnown (world : World) (options : Options) (octets : List UInt8) (finished : Finished) :
    Prop
  | accepted {g : Graph} (accepted : (canonicalFile options.strict octets).outcome = .ok g)
      (exit : finished.exit = .ok 0) : EndsKnown world options octets finished
  | refused {message : String} (refuses : Refuses options.strict octets message)
      (exit : finished.exit = .ok 1) (line : finished.stderr = "[error] " ++ message ++ "\n") :
      EndsKnown world options octets finished
  | unwritten {g : Graph} {failure : Failure}
      (accepted : (canonicalFile options.strict octets).outcome = .ok g)
      (canonical : options.canonical = false) (print : options.print = false)
      (unwritable : Unwritable world options failure) (exit : finished.exit = .error failure) :
      EndsKnown world options octets finished

section

variable {world : World} {arguments : List Text} {options : Options} {settings : Settings}
  {octets : List UInt8}

/-- A failure that is neither a departure from the grammar nor a rejection is the end of the run. -/
theorem run_of_unspoken {failure : Failure} (opens : Opens world arguments options settings octets)
    (unspoken : Unspoken octets failure)
    (failed : (canonicalFile options.strict octets).outcome = .error failure) :
    (run world arguments).exit = .error failure ∧ (run world arguments).stderr = "" := by
  rw [opens.run_eq]
  unfold runFile
  dsimp only
  rw [failed]
  cases unspoken with
  | undecodable => exact ⟨rfl, rfl⟩
  | half => exact ⟨rfl, rfl⟩
  | @limit fault _ beyond =>
    cases fault with
    | departure => exact absurd beyond not_false
    | digits => exact ⟨rfl, rfl⟩
    | nesting => exact ⟨rfl, rfl⟩

theorem run_of_refused {message : String} (opens : Opens world arguments options settings octets)
    (refuses : Refuses options.strict octets message) :
    (run world arguments).exit = .ok 1 ∧
      (run world arguments).stderr = "[error] " ++ message ++ "\n" := by
  cases refuses with
  | malformed unread =>
    rw [opens.run_eq]
    unfold runFile
    dsimp only
    rw [canonicalFile_of_unread unread]
    exact ⟨rfl, rfl⟩
  | @rejected r rejected =>
    rw [opens.run_of_rejected rejected]
    refine ⟨rfl, ?_⟩
    show "[error] Graph validation failed: " ++ r.message ++ "\n" = _
    rw [← String.append_assoc]
    rfl

/-- Where the library itself is the target, it generates a program for every accepted graph. -/
theorem exists_generates {strict : Bool} {g : Graph} (own : world.backend = none)
    (accepted : (canonicalFile strict octets).outcome = .ok g) :
    ∃ text, Generates world settings (some .compiler) g text := by
  obtain ⟨value, hvalue⟩ := exists_canonicalFile_eq accepted
  rw [hvalue] at accepted
  obtain ⟨plan, hplan, -⟩ := exists_plan_of_canonical accepted
  refine ⟨plan.source none, .structural none, backendFor_compiler own, ?_, plan.isBlank_source none⟩
  rw [Backend.write_structural hplan]

/-- A run on an accepted graph whose target is the library itself ends with the status 0, unless it
is asked to write the program and cannot. -/
theorem endsKnown_of_accepted {g : Graph} (opens : Opens world arguments options settings octets)
    (target : options.target = some .compiler) (own : world.backend = none)
    (accepted : (canonicalFile options.strict octets).outcome = .ok g) :
    EndsKnown world options octets (run world arguments) := by
  have accepts : Accepts world arguments options settings g := ⟨octets, opens, accepted⟩
  have generates : ∃ text, Generates world settings options.target g text := by
    rw [target]
    exact exists_generates own accepted
  obtain ⟨text, generates⟩ := generates
  cases canonical : options.canonical with
  | true => exact .accepted accepted (Shows.graph accepts canonical).exit_eq
  | false =>
  cases print : options.print with
  | true => exact .accepted accepted (Shows.program accepts canonical print generates).exit_eq
  | false =>
  obtain ⟨stderr, events, delivered⟩ := accepts.exists_run_eq_deliver canonical generates
  rw [delivered]
  cases out : options.out with
  | none =>
    refine .unwritten accepted canonical print (Or.inl ⟨out, rfl⟩) ?_
    unfold deliver
    rw [print, out]
    rfl
  | some directory =>
    obtain ⟨after, outcome, written, -⟩ :=
      writeInto_program world.files directory options.file text
    obtain ⟨stderr', ended⟩ := exists_deliver_eq print out written stderr events
    rw [ended]
    cases outcome with
    | ok done => exact .accepted accepted rfl
    | error failure =>
      exact .unwritten accepted canonical print (Or.inr ⟨directory, text, after, out, written⟩) rfl

end

end Command

end GraphScribe
