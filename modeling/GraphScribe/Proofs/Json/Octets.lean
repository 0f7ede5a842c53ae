import GraphScribe.Graph.Document
import GraphScribe.Proofs.Encoding.Utf8
import GraphScribe.Proofs.Json.Plain
import GraphScribe.Proofs.Json.Reading

/-!
# JSON in files and bodies

A value that is written with a line for each item, with a line feed behind it, and stored in UTF-8 is
what the stored document holds (`documentJson_encode_indented`); and a value written without blanks
is what a body in UTF-8 holds (`read_compact`). Reading a file makes every line end a line feed, which
changes nothing here, for a carriage return inside a string is written as an escape.
-/

namespace GraphScribe

/-! ## Carriage returns -/

theorem RawText.unifyLineEndsAfter_of_not_mem {raw : RawText} (h : .scalar '\r' ∉ raw)
    (done : RawText) : unifyLineEndsAfter done raw = done.reverse ++ raw := by
  induction raw generalizing done with
  | nil => exact (List.append_nil _).symm
  | cons p rest ih =>
    rw [List.mem_cons, not_or] at h
    obtain ⟨hp, hrest⟩ := h
    rw [unifyLineEndsAfter, ih hrest, List.reverse_cons, List.append_assoc, List.singleton_append]
    · exact fun _ heq _ => hp heq.symm
    · exact fun heq => hp heq.symm

theorem RawText.unifyLineEnds_of_not_mem {raw : RawText} (h : .scalar '\r' ∉ raw) :
    raw.unifyLineEnds = raw :=
  unifyLineEndsAfter_of_not_mem h []

namespace Json

/-- A layout without carriage returns. -/
structure Layout.Feeds (layout : Layout) : Prop where
  openItems : ∀ depth, '\r' ∉ layout.openItems depth
  nextItem : ∀ depth, '\r' ∉ layout.nextItem depth
  closeItems : ∀ depth, '\r' ∉ layout.closeItems depth
  colon : '\r' ∉ layout.colon

theorem not_mem_lineAt (depth : Nat) : '\r' ∉ lineAt depth := by
  unfold lineAt
  simp

theorem indentedLayout_feeds : indentedLayout.Feeds where
  openItems depth := not_mem_lineAt (depth + 1)
  nextItem depth := by
    show '\r' ∉ ',' :: lineAt (depth + 1)
    rw [List.mem_cons, not_or]
    exact ⟨by decide, not_mem_lineAt (depth + 1)⟩
  closeItems depth := not_mem_lineAt depth
  colon := by decide

theorem return_mem_rawOf_iff (t : Text) : .scalar '\r' ∈ rawOf t ↔ '\r' ∈ t := by
  unfold rawOf
  simp

theorem return_not_mem_stringPoint (p : Point) : .scalar '\r' ∉ stringPoint p := by
  cases p with
  | lone half => exact fun h => Point.noConfusion (List.mem_singleton.1 h)
  | scalar c =>
    by_cases hc : c = '\r'
    · subst hc
      decide
    have escape : ∀ e : Char, e ≠ '\r' → .scalar '\r' ∉ rawOf ['\\', e] := by
      intro e he
      rw [return_mem_rawOf_iff, List.mem_pair, not_or]
      exact ⟨by decide, he.symm⟩
    have digits : '\r' ∉ hexDigits 4 c.toNat := fun h =>
      absurd (not_isLineBreak_of_mem_hexDigits h) (by decide)
    unfold stringPoint
    dsimp only
    split
    · exact escape c hc
    split
    · exact escape 'n' (by decide)
    split
    · exact escape 't' (by decide)
    split
    · exact escape 'b' (by decide)
    split
    · exact escape 'f' (by decide)
    split
    · rw [return_mem_rawOf_iff, List.mem_cons, List.mem_cons, not_or, not_or]
      exact ⟨by decide, by decide, digits⟩
    · exact fun h => hc (Point.scalar.inj (List.mem_singleton.1 h)).symm

theorem return_not_mem_stringLiteral (t : RawText) : .scalar '\r' ∉ stringLiteral t := by
  unfold stringLiteral
  simp only [List.mem_append, List.mem_cons, List.mem_flatMap, List.not_mem_nil, not_or, not_exists,
    not_and, or_false]
  exact ⟨⟨by decide, fun p _ => return_not_mem_stringPoint p⟩, by decide⟩

section

variable {layout : Layout}

theorem return_not_mem_bracketed (feeds : layout.Feeds) (depth : Nat) {left right : Char}
    (hleft : left ≠ '\r') (hright : right ≠ '\r') {ws : List RawText}
    (h : ∀ w ∈ ws, .scalar '\r' ∉ w) : .scalar '\r' ∉ bracketed layout depth left right ws := by
  cases ws with
  | nil =>
    rw [bracketed, return_mem_rawOf_iff, List.mem_pair, not_or]
    exact ⟨hleft.symm, hright.symm⟩
  | cons w ws =>
    rw [List.forall_mem_cons] at h
    unfold bracketed
    simp only [List.mem_append, List.mem_flatMap, return_mem_rawOf_iff, List.mem_cons,
      List.not_mem_nil, or_false, not_or, not_exists, not_and]
    refine ⟨⟨⟨⟨hleft.symm, feeds.openItems depth⟩, h.1⟩, fun next hnext => ?_⟩,
      feeds.closeItems depth, hright.symm⟩
    exact ⟨feeds.nextItem depth, h.2 next hnext⟩

/-- A value without numbers is written without carriage returns. -/
theorem return_not_mem_writeAt (feeds : layout.Feeds) {n : Nat} {v : Json} (h : Textual n v)
    (depth : Nat) : .scalar '\r' ∉ writeAt layout depth v := by
  induction h generalizing depth with
  | null n =>
    rw [writeAt, return_mem_rawOf_iff]
    decide
  | bool n b =>
    rw [writeAt, return_mem_rawOf_iff]
    cases b <;> decide
  | string n t => exact return_not_mem_stringLiteral t
  | array _ ih =>
    rw [writeAt, writeItems_eq_map]
    refine return_not_mem_bracketed feeds depth (by decide) (by decide) ?_
    rw [List.forall_mem_map]
    exact fun item hitem => ih item hitem (depth + 1)
  | object _ ih =>
    rw [writeAt, writeMembers_eq_map]
    refine return_not_mem_bracketed feeds depth (by decide) (by decide) ?_
    rw [List.forall_mem_map]
    intro m hm
    rw [List.mem_append, List.mem_append, return_mem_rawOf_iff, not_or, not_or]
    exact ⟨⟨return_not_mem_stringLiteral m.1, feeds.colon⟩, ih m hm (depth + 1)⟩

end

/-! ## Files and bodies -/

theorem read_of_readDocument {t : RawText} {v : Json} (h : readDocument t = .ok v) :
    read t = .ok v := by
  unfold readDocument at h
  split at h
  · cases h
  · exact h

/-- A value written without blanks is read back. -/
theorem read_compact {v : Json} (h : Textual nestingLimit v) : read v.compact = .ok v :=
  read_of_readDocument (readDocument_compact h)

/-- A value written with a line for each item, and the last line ended, is read back. -/
theorem readDocument_indented_feed {v : Json} {t : Text} (h : Textual nestingLimit v)
    (ht : v.indented = rawOf t) : readDocument (rawOf (t ++ ['\n'])) = .ok v := by
  have lineEnd : Gaps ['\n'] := fun c hc => by
    rw [List.eq_of_mem_singleton hc]
    rfl
  have read := readDocument_writeAt respelling_singleton indentedLayout_blank h 0 gaps_nil lineEnd
  rw [List.flatMap_singleton', show writeAt indentedLayout 0 v = rawOf t from ht] at read
  rw [show rawOf (t ++ ['\n']) = rawOf [] ++ (rawOf t ++ rawOf ['\n']) by simp [rawOf]]
  exact read

end Json

/-- The octets of a file that holds a text. -/
theorem documentJson_encode {t : Text} (h : '\r' ∉ t) :
    documentJson (Utf8.encode t)
      = (Json.readDocument (rawOf t)).mapError Failure.unreadable := by
  have feeds : (rawOf t).unifyLineEnds = rawOf t :=
    RawText.unifyLineEnds_of_not_mem fun hmem => h ((Json.return_mem_rawOf_iff t).1 hmem)
  unfold documentJson
  rw [Utf8.decode_encode]
  show (Json.readDocument (rawOf t).unifyLineEnds).mapError Failure.unreadable = _
  rw [feeds]

/-- A value without lone halves, written with a line for each item, is what the file holds that it is
stored in. -/
theorem documentJson_encode_indented {v : Json} {t : Text} (h : Json.Textual Json.nestingLimit v)
    (ht : v.indented = rawOf t) : documentJson (Utf8.encode (t ++ ['\n'])) = .ok v := by
  have feeds : '\r' ∉ t ++ ['\n'] := by
    have written := Json.return_not_mem_writeAt Json.indentedLayout_feeds h 0
    rw [show Json.writeAt Json.indentedLayout 0 v = rawOf t from ht, Json.return_mem_rawOf_iff]
      at written
    rw [List.mem_append, not_or]
    exact ⟨written, by decide⟩
  rw [documentJson_encode feeds, Json.readDocument_indented_feed h ht]
  rfl

end GraphScribe
