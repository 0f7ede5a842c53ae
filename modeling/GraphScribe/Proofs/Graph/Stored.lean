import GraphScribe.Proofs.Graph.Acceptance
import GraphScribe.Proofs.Graph.Document
import GraphScribe.Proofs.Graph.Refusal
import GraphScribe.Proofs.Json.Octets

/-!
# Canonical graphs in files

The JSON form of a graph, written with a line for each item, is stored in a file and read from it
again as it was (`documentJson_printed`). Making the stored form of an accepted graph canonical
is the run on the value that it was accepted from (`canonicalFile_printed_eq`).
-/

namespace GraphScribe

namespace Graph

/-- The lines of a graph's JSON form, as they are printed. -/
def printed (g : Graph) : Text := RawText.text g.toJson.indented ++ ['\n']

theorem rawOf_text_indented (g : Graph) : rawOf (RawText.text g.toJson.indented) = g.toJson.indented := by
  have plain : RawText.Plain g.toJson.indented := (Json.plain_writeAt_iff _ _ _).2 g.plain_toJson
  obtain ⟨t, ht⟩ := (RawText.plain_iff_exists_rawOf _).1 plain
  rw [ht, RawText.text_rawOf]

theorem readDocument_printed (g : Graph) : Json.readDocument (rawOf g.printed) = .ok g.toJson :=
  Json.readDocument_indented_feed (g.textual_toJson 947) g.rawOf_text_indented.symm

theorem documentJson_printed (g : Graph) : documentJson (Utf8.encode g.printed) = .ok g.toJson :=
  documentJson_encode_indented (g.textual_toJson 947) g.rawOf_text_indented.symm

theorem get?_graphJSON_toJson (g : Graph) : g.toJson.get? "graphJSON" = none := rfl

end Graph

/-! ## Reading without checks -/

theorem textMember?_eq_of_text {key : String} {members : List (RawText × Json)} {t : Text}
    (h : Json.member key members = .text t) : textMember? key members = some t := by
  unfold textMember?
  rw [h]
  exact congrArg some (RawText.text_rawOf t)

theorem textMember?_eq_of_elim {key : String} {members : List (RawText × Json)} {t : Option Text}
    (h : Json.member key members = t.elim Json.null Json.text) : textMember? key members = t := by
  cases t with
  | none =>
    unfold textMember?
    rw [h]
    rfl
  | some t => exact textMember?_eq_of_text h

theorem Node.ofJson_toJson (n : Node) : Node.ofJson n.toJson = .ok n := by
  obtain ⟨members, hmembers, id, type, label, code⟩ := n.exists_members
  have required : requiredText "id" (membersOf n.toJson) = .ok n.id := by
    rw [hmembers]
    unfold requiredText
    rw [membersOf, textMember?_eq_of_text id]
  unfold Node.ofJson
  dsimp only
  rw [required, ok_bind, hmembers, membersOf, textMember?_eq_of_text type,
    textMember?_eq_of_elim label, textMember?_eq_of_elim code]
  rfl

theorem Edge.ofJson_toJson (e : Edge) : Edge.ofJson e.toJson = .ok e := by
  obtain ⟨members, hmembers, source, target⟩ := e.exists_members
  unfold Edge.ofJson requiredText
  dsimp only
  rw [hmembers, membersOf, textMember?_eq_of_text source, textMember?_eq_of_text target]
  rfl

/-- A graph is read back from its JSON form also where nothing is checked. -/
theorem Graph.ofJson_toJson (g : Graph) : Graph.ofJson g.toJson = .ok g := by
  obtain ⟨members, hmembers, nodes, edges⟩ := g.exists_members
  unfold Graph.ofJson
  dsimp only
  rw [hmembers, membersOf, nodes, edges, itemsOf, mapM_map_eq_ok Node.ofJson_toJson, ok_bind,
    itemsOf, mapM_map_eq_ok Edge.ofJson_toJson]
  rfl

/-! ## Request bodies -/

/-- The request body that carries a value as its graph. -/
def Json.asBody (value : Json) : Json := .object [Json.field "graphJSON" value]

theorem canonicalRequest_asBody (strict : Bool) (value : Json) :
    canonicalRequest strict value.asBody = canonical strict value := rfl

theorem canonicalDocument_asBody (strict : Bool) (value : Json) :
    canonicalDocument strict value.asBody = canonical strict value := rfl

theorem canonicalDocument_of_bare {value : Json} (bare : value.get? "graphJSON" = none)
    (strict : Bool) : canonicalDocument strict value = canonical strict value := by
  unfold canonicalDocument
  rw [bare]

section

variable {strict : Bool} {g : Graph}

/-- A graph that is accepted from a request body is accepted from the graph in it. -/
theorem canonicalRequest_eq_of_ok {body : Json}
    (h : (canonicalRequest strict body).outcome = .ok g) :
    canonicalRequest strict body = canonical strict body.bodyGraph := by
  cases body with
  | object members => rfl
  | _ => cases h

/-- A graph that is accepted from a document is accepted from a value: the document or the graph in
it. -/
theorem exists_canonicalDocument_eq {document : Json}
    (h : (canonicalDocument strict document).outcome = .ok g) :
    ∃ value, canonicalDocument strict document = canonical strict value := by
  unfold canonicalDocument at h ⊢
  split
  · next value hvalue =>
    rw [hvalue] at h
    exact ⟨document.bodyGraph, canonicalRequest_eq_of_ok h⟩
  · exact ⟨document, rfl⟩

/-! ## Files -/

variable {octets : List UInt8}

theorem canonicalFile_of_document {document : Json} (h : documentJson octets = .ok document) :
    canonicalFile strict octets = canonicalDocument strict document := by
  unfold canonicalFile
  rw [h]
  rfl

theorem canonicalFile_printed (strict : Bool) (g : Graph) :
    canonicalFile strict (Utf8.encode g.printed) = canonical strict g.toJson := by
  rw [canonicalFile_of_document g.documentJson_printed]
  exact canonicalDocument_of_bare g.get?_graphJSON_toJson strict

/-- A graph that is accepted from a file is accepted from a value. -/
theorem exists_canonicalFile_eq (h : (canonicalFile strict octets).outcome = .ok g) :
    ∃ value, canonicalFile strict octets = canonical strict value := by
  have parts := h
  unfold canonicalFile at parts
  rw [Run.outcome_bind] at parts
  obtain ⟨document, hdocument, -⟩ := bind_eq_ok_iff.1 parts
  rw [canonicalFile_of_document hdocument] at h ⊢
  exact exists_canonicalDocument_eq h

/-- A file with an accepted graph and a file with the graph's printed form are made canonical by the
same run. -/
theorem canonicalFile_printed_eq (h : (canonicalFile strict octets).outcome = .ok g) :
    canonicalFile strict (Utf8.encode g.printed) = canonicalFile strict octets := by
  obtain ⟨value, hvalue⟩ := exists_canonicalFile_eq h
  rw [hvalue] at h ⊢
  rw [canonicalFile_printed, canonical_toJson_eq h]

end

end GraphScribe
