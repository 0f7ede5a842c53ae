import GraphScribe.Prompt
import GraphScribe.Proofs.Graph.Acceptance
import GraphScribe.Proofs.Graph.Document

/-!
# The data channel

Whatever stands in the texts of a graph, the message that carries its data has each delimiter once,
at its very start and at its very end. What stands between them holds no `<` and is a document that
holds the graph's JSON form, so that no two graphs share a message (`dataMessage_carries`).
-/

namespace GraphScribe.Prompt

theorem respelling_dataPoint : Json.Respelling dataPoint where
  other _ hp := if_neg hp
  angle := Or.inr (if_pos rfl)

/-- What stands between the delimiters. -/
def between (data : Json) : RawText :=
  rawOf ['\n'] ++ (data.indented.flatMap dataPoint ++ rawOf ['\n'])

theorem dataMessage_eq (data : Json) :
    dataMessage data = rawOf dataOpen.toList ++ between data ++ rawOf dataClose.toList := by
  unfold dataMessage between
  simp [rawOf]

theorem angle_not_mem_dataPoint (p : Point) : .scalar '<' ∉ dataPoint p := by
  unfold dataPoint
  split
  · decide
  · next hp => exact fun h => hp (List.eq_of_mem_singleton h).symm

theorem angle_not_mem_between (data : Json) : .scalar '<' ∉ between data := by
  unfold between
  simp only [List.mem_append, List.mem_flatMap, not_or, not_exists, not_and]
  exact ⟨by decide, fun p _ => angle_not_mem_dataPoint p, by decide⟩

theorem readDocument_between {data : Json} (h : Json.Textual Json.nestingLimit data) :
    Json.readDocument (between data) = .ok data := by
  have lineEnd : Json.Gaps ['\n'] := fun c hc => by
    rw [List.eq_of_mem_singleton hc]
    rfl
  exact Json.readDocument_writeAt respelling_dataPoint Json.indentedLayout_blank h 0 lineEnd lineEnd

-- a backslash right before a `<` is written as two, and the escape starts with a third
example : between (.text ['\\', '<']) = rawOf "\n\x22\\\\\\u003c\x22\n".toList := by decide

/-! ## Delimiters -/

/-- A text in which `x` stands twice, at its start and before `back`, is cut in front of an `x` at
one of these two places. -/
theorem cut_cases {α : Type} {x : α} {front back before after : List α} (hfront : x ∉ front)
    (hback : x ∉ back) (h : x :: (front ++ x :: back) = before ++ x :: after) :
    before = [] ∧ front ++ x :: back = after ∨ before = x :: front ∧ back = after := by
  cases before with
  | nil => exact Or.inl ⟨rfl, (List.cons.inj h).2⟩
  | cons y before =>
    obtain ⟨rfl, hrest⟩ := List.cons.inj h
    obtain ⟨hbefore, -, hafter⟩ := (List.append_cons_inj_of_notMem hfront hback).1 hrest
    exact Or.inr ⟨by rw [hbefore], hafter⟩

/-- The message by the places where a `<` stands. -/
theorem dataMessage_eq_cons (data : Json) :
    dataMessage data = .scalar '<' :: ((rawOf "graph_data>".toList ++ between data)
      ++ .scalar '<' :: rawOf "/graph_data>".toList) := by
  rw [dataMessage_eq]
  rfl

/-- Where a text that starts with `<` can stand in the message. -/
theorem dataMessage_cut {data : Json} {name before after : RawText}
    (h : dataMessage data = before ++ (.scalar '<' :: name) ++ after) :
    before = [] ∧ rawOf "graph_data>".toList ++ (between data ++ rawOf dataClose.toList)
        = name ++ after ∨
      before = rawOf dataOpen.toList ++ between data
        ∧ rawOf "/graph_data>".toList = name ++ after := by
  have hfront : .scalar '<' ∉ rawOf "graph_data>".toList ++ between data := by
    rw [List.mem_append, not_or]
    exact ⟨by decide, angle_not_mem_between data⟩
  rw [dataMessage_eq_cons, List.append_assoc before, List.cons_append] at h
  rcases cut_cases hfront (by decide) h with ⟨hbefore, hafter⟩ | ⟨hbefore, hafter⟩
  · rw [List.append_assoc] at hafter
    exact Or.inl ⟨hbefore, hafter⟩
  · exact Or.inr ⟨hbefore, hafter⟩

/-- A message that carries a JSON value: its delimiters occur once each, at the two ends, and the
text `inner` between them is inert and tells the value. -/
structure Carries (message inner : RawText) (data : Json) : Prop where
  opens : ∀ before after, message = before ++ rawOf dataOpen.toList ++ after ↔
    before = [] ∧ after = inner ++ rawOf dataClose.toList
  closes : ∀ before after, message = before ++ rawOf dataClose.toList ++ after ↔
    before = rawOf dataOpen.toList ++ inner ∧ after = []
  inert : .scalar '<' ∉ inner
  tells : Json.readDocument inner = .ok data

theorem carries_between {data : Json} (h : Json.Textual Json.nestingLimit data) :
    Carries (dataMessage data) (between data) data where
  opens before after := by
    constructor
    · intro heq
      rcases dataMessage_cut heq with ⟨hbefore, hafter⟩ | ⟨-, hafter⟩
      · exact ⟨hbefore, (List.append_cancel_left hafter).symm⟩
      · have first : Point.scalar '/' = .scalar 'g' := (List.cons.inj hafter).1
        exact absurd first (by decide)
    · rintro ⟨rfl, rfl⟩
      rw [dataMessage_eq, List.nil_append, List.append_assoc]
  closes before after := by
    constructor
    · intro heq
      rcases dataMessage_cut heq with ⟨-, hafter⟩ | ⟨hbefore, hafter⟩
      · have first : Point.scalar 'g' = .scalar '/' := (List.cons.inj hafter).1
        exact absurd first (by decide)
      · exact ⟨hbefore, List.self_eq_append_right.1 hafter⟩
    · rintro ⟨rfl, rfl⟩
      rw [dataMessage_eq, List.append_nil]
  inert := angle_not_mem_between data
  tells := readDocument_between h

/-- Two values that are told from their messages share a message only if they are the same. -/
theorem eq_of_dataMessage_eq {a b : Json} (ha : Json.Textual Json.nestingLimit a)
    (hb : Json.Textual Json.nestingLimit b) (h : dataMessage a = dataMessage b) : a = b := by
  have same : between a = between b := by
    rw [dataMessage_eq, dataMessage_eq] at h
    exact List.append_cancel_left (List.append_cancel_right h)
  have read := readDocument_between ha
  rw [same, readDocument_between hb] at read
  exact (Except.ok.inj read).symm

/-! ## Messages about graphs -/

theorem textual_toJson (g : RawGraph) : Json.Textual Json.nestingLimit g.toJson :=
  RawGraph.textual_toJson 947 g

theorem lone_mem_dataPoint {half : Fin 2048} {p : Point} (h : .lone half ∈ dataPoint p) :
    .lone half = p := by
  unfold dataPoint at h
  split at h
  · exact absurd h (RawText.plain_rawOf _ half)
  · exact List.eq_of_mem_singleton h

/-- The message about a graph without lone halves has none. -/
theorem plain_dataMessage (g : Graph) : RawText.Plain (dataMessage g.toJson) := by
  have indented : RawText.Plain g.toJson.indented :=
    (Json.plain_writeAt_iff _ _ _).2 g.plain_toJson
  intro half h
  unfold dataMessage at h
  rw [List.mem_append, List.mem_append, List.mem_flatMap] at h
  rcases h with (h | ⟨p, hp, h⟩) | h
  · exact RawText.plain_rawOf _ half h
  · exact indented half (lone_mem_dataPoint h ▸ hp)
  · exact RawText.plain_rawOf _ half h

theorem rawOf_messages_snd (g : Graph) : rawOf (messages g).2 = dataMessage g.toRaw.toJson := by
  obtain ⟨t, ht⟩ := (RawText.plain_iff_exists_rawOf _).1 (plain_dataMessage g)
  show rawOf (RawText.text (dataMessage g.toJson)) = _
  rw [Graph.toJson_toRaw, ht, RawText.text_rawOf]

/-- No text of a graph can end the data channel early, and nothing of a graph is lost in it: the
message carries the graph's JSON form, and two graphs never share a message. The message that is
sent about a graph without lone halves is this one. -/
theorem dataMessage_carries :
    (∀ g : RawGraph, ∃ inner, Carries (dataMessage g.toJson) inner g.toJson) ∧
      (Function.Injective fun g : RawGraph => dataMessage g.toJson) ∧
      (∀ g : Graph, rawOf (messages g).2 = dataMessage g.toRaw.toJson) ∧
      Function.Injective fun g : Graph => (messages g).2 := by
  have injective : Function.Injective fun g : RawGraph => dataMessage g.toJson := fun g h heq =>
    RawGraph.toJson_injective (eq_of_dataMessage_eq (textual_toJson g) (textual_toJson h) heq)
  refine ⟨fun g => ⟨between g.toJson, carries_between (textual_toJson g)⟩, injective,
    rawOf_messages_snd, ?_⟩
  intro g h heq
  have same : dataMessage g.toRaw.toJson = dataMessage h.toRaw.toJson := by
    rw [← rawOf_messages_snd, ← rawOf_messages_snd]
    exact congrArg rawOf heq
  exact Graph.toRaw_injective (injective same)

end GraphScribe.Prompt
