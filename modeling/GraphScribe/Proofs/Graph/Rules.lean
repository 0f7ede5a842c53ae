import GraphScribe.Graph.Draft
import GraphScribe.Proofs.Outcome
import GraphScribe.Proofs.Text.Letter
import GraphScribe.Proofs.Text.Plain

/-!
# What a JSON value says of a graph

The rules for ids, types, labels, code, nodes, edges and whole graphs, as relations between a JSON
value and what it stands for. They speak of texts: a string with a lone half stands for nothing.
Cleaning follows the rules (`cleanGraph_eq_ok_iff`), and the JSON form of what a value stands for
stands for the same thing again (`Json.Describes.toJson`).

## The architecture

* **Cleaning on texts** — `Text.inline` and `Text.multiline` are what the cleaning of raw texts does
  to a text; each leaves its own results alone.
* **One rule for each part** — `IdOf`, `TypeOf`, `LabelOf`, `CodeOf`, with the law that the cleaning
  function gives a part exactly if the rule does.
* **Items and wholes** — `NodeOf`, `EdgeOf`, `ItemsOf` and `Describes`, put together by
  `mapM_zipIdx_eq_ok_iff`.
-/

namespace GraphScribe

/-! ## Cleaning on texts -/

/-- A control character: one of the first 32, or one of the 33 that start at U+007F. -/
def Text.isControlChar (c : Char) : Bool :=
  c.toNat < 0x20 || (0x7F ≤ c.toNat && c.toNat ≤ 0x9F)

/-- A text as one clean line: the control characters are left out, then the blanks at the ends. -/
def Text.inline (t : Text) : Text := Text.trim (t.filter fun c => !Text.isControlChar c)

/-- A text of clean lines: the control characters are left out, except for tabs and the two plain
line ends. -/
def Text.multiline (t : Text) : Text :=
  t.filter fun c => !Text.isControlChar c || c == '\t' || c == '\n' || c == '\r'

theorem Text.trim_trim (t : Text) : Text.trim (Text.trim t) = Text.trim t := trimBy_trimBy _ t

/-- Leaving characters out of a trimmed text changes nothing when none of them was in the text. -/
theorem Text.filter_trim {p : Char → Bool} (t : Text) :
    (Text.trim (t.filter p)).filter p = Text.trim (t.filter p) := by
  rw [List.filter_eq_self]
  intro c hc
  exact (List.mem_filter.1 (mem_of_mem_trimBy hc)).2

theorem Text.inline_inline (t : Text) : Text.inline (Text.inline t) = Text.inline t := by
  unfold Text.inline
  rw [Text.filter_trim, Text.trim_trim]

theorem Text.multiline_multiline (t : Text) :
    Text.multiline (Text.multiline t) = Text.multiline t := by
  unfold Text.multiline
  rw [List.filter_filter]
  simp only [Bool.and_self]

theorem Text.multiline_trim_multiline (t : Text) :
    Text.multiline (Text.trim (Text.multiline t)) = Text.trim (Text.multiline t) :=
  Text.filter_trim t

/-! ## Cleaning raw texts

What cleaning does to a text is the same in its raw form, and it neither adds nor takes away lone
halves. -/

theorem trimRaw_rawOf (t : Text) : trimRaw (rawOf t) = rawOf (Text.trim t) :=
  trimBy_map Point.scalar Point.isBlank t

theorem cleanInline_rawOf (t : Text) : cleanInline (rawOf t) = rawOf (Text.inline t) := by
  unfold cleanInline rawOf
  rw [List.filter_map]
  exact trimRaw_rawOf _

theorem cleanMultiline_rawOf (t : Text) : cleanMultiline (rawOf t) = rawOf (Text.multiline t) := by
  have same : ((fun p => !isNonTextControl p) ∘ Point.scalar)
      = fun c => !Text.isControlChar c || c == '\t' || c == '\n' || c == '\r' := by
    funext c
    -- the three exceptions are given as numbers there, and as characters here
    have number : ∀ d : Char, (c.toNat != d.toNat) = !(c == d) := by
      intro d
      rw [bne, Bool.not_inj_iff, Bool.eq_iff_iff, beq_iff_eq, beq_iff_eq]
      exact ⟨fun h => Char.ext (UInt32.toNat_inj.1 h), fun h => h ▸ rfl⟩
    have tab := number '\t'
    have lineFeed := number '\n'
    have carriageReturn := number '\r'
    show (!(Text.isControlChar c && (c.toNat != '\t'.toNat) && (c.toNat != '\n'.toNat)
      && (c.toNat != '\r'.toNat))) = _
    rw [tab, lineFeed, carriageReturn]
    simp only [Bool.not_and, Bool.not_not]
  unfold cleanMultiline Text.multiline rawOf
  rw [List.filter_map, same]

theorem plain_trimRaw_iff (raw : RawText) : RawText.Plain (trimRaw raw) ↔ RawText.Plain raw :=
  forall_congr' fun half => not_congr (mem_trimBy_iff (by rfl) raw)

theorem isControl_lone (half : Fin 2048) : isControl (.lone half) = false := by
  have far : 0xD800 ≤ (Point.lone half).code := Nat.le_add_right _ _
  rw [isControl, decide_eq_false (by omega), decide_eq_false (p := (Point.lone half).code ≤ 0x9F)
    (by omega)]
  simp

theorem plain_cleanInline_iff (raw : RawText) :
    RawText.Plain (cleanInline raw) ↔ RawText.Plain raw := by
  unfold cleanInline
  rw [plain_trimRaw_iff]
  refine forall_congr' fun half => not_congr ?_
  rw [List.mem_filter, isControl_lone]
  exact and_iff_left rfl

theorem plain_cleanMultiline_iff (raw : RawText) :
    RawText.Plain (cleanMultiline raw) ↔ RawText.Plain raw := by
  refine forall_congr' fun half => not_congr ?_
  unfold cleanMultiline isNonTextControl
  rw [List.mem_filter, isControl_lone]
  exact and_iff_left rfl

/-! ## The parts -/

/-- A character of an id: a plain letter, a plain digit, a hyphen or an underscore. -/
def IsIdChar (c : Char) : Prop :=
  ('A' ≤ c ∧ c ≤ 'Z') ∨ ('a' ≤ c ∧ c ≤ 'z') ∨ ('0' ≤ c ∧ c ≤ '9') ∨ c = '-' ∨ c = '_'

namespace Json

/-- A value stands for an id: a string of 1 to 128 id characters between blanks. -/
def IdOf (value : Json) (id : Text) : Prop :=
  ∃ t, value = .text t ∧ id = Text.trim t ∧ 1 ≤ id.length ∧ id.length ≤ 128 ∧ ∀ c ∈ id, IsIdChar c

/-- A value stands for a type: null for the type of steps, and a string for its clean line of at most
120 characters, or for the type of steps when that line is empty. -/
def TypeOf (value : Json) (type : Text) : Prop :=
  (value = .null ∧ type = "NODE".toList) ∨
    ∃ t, value = .text t ∧ (Text.inline t).length ≤ 120 ∧
      type = if Text.inline t = [] then "NODE".toList else Text.inline t

/-- A value stands for a label or for none: null for none, and a string for what is between the
blanks of its clean lines, at most 120 characters, or for none when nothing is. -/
def LabelOf (value : Json) (label : Option Text) : Prop :=
  (value = .null ∧ label = none) ∨
    ∃ t, value = .text t ∧ (Text.trim (Text.multiline t)).length ≤ 120 ∧
      label = if Text.trim (Text.multiline t) = [] then none else some (Text.trim (Text.multiline t))

/-- A value stands for code or for none: null for none, and a string for none when its clean lines
are blank, or else for them, at most 20000 characters. -/
def CodeOf (value : Json) (code : Option Text) : Prop :=
  (value = .null ∧ code = none) ∨
    ∃ t, value = .text t ∧
      (Text.trim (Text.multiline t) = [] ∧ code = none ∨
        Text.trim (Text.multiline t) ≠ [] ∧ (Text.multiline t).length ≤ 20000 ∧
          code = some (Text.multiline t))

end Json

/-- The law of a part, from what its cleaning does to null and to texts: nothing else is accepted,
and no string with a lone half. -/
theorem field_eq_ok_iff {β : Type} {clean : Json → Except Reason β} {b : β} {absent : Prop}
    {rule : Text → Prop}
    (other : ∀ value, value ≠ .null → (∀ raw, value ≠ .string raw) → clean value = .error .notString)
    (null : clean .null = .ok b ↔ absent)
    (plain : ∀ raw, clean (.string raw) = .ok b → RawText.Plain raw)
    (text : ∀ t, clean (.text t) = .ok b ↔ rule t) (value : Json) :
    clean value = .ok b ↔ (value = .null ∧ absent) ∨ ∃ t, value = .text t ∧ rule t := by
  constructor
  · intro h
    by_cases hnull : value = .null
    · exact Or.inl ⟨hnull, null.1 (hnull ▸ h)⟩
    by_cases hstring : ∃ raw, value = .string raw
    · -- accepted, so without lone halves, so a text
      obtain ⟨raw, rfl⟩ := hstring
      obtain ⟨t, rfl⟩ := (RawText.plain_iff_exists_rawOf raw).1 (plain raw h)
      exact Or.inr ⟨t, rfl, (text t).1 h⟩
    · rw [other value hnull fun raw hraw => hstring ⟨raw, hraw⟩] at h
      cases h
  · rintro (⟨rfl, habsent⟩ | ⟨t, rfl, hrule⟩)
    · exact null.2 habsent
    · exact (text t).2 hrule

/-! ### Ids -/

theorem isIdPoint_scalar_iff (c : Char) : isIdPoint (.scalar c) = true ↔ IsIdChar c := by
  unfold isIdPoint IsIdChar
  simp only [Bool.or_eq_true, isAlphanum_iff, beq_iff_eq, or_assoc]

theorem isControl_of_isIdPoint {p : Point} (h : isIdPoint p = true) : isControl p = false := by
  cases p with
  | lone half => exact Bool.noConfusion h
  | scalar c =>
    -- from the hyphen to the last small letter, which is clear of both blocks of controls
    have bounds : 0x2D ≤ c.toNat ∧ c.toNat ≤ 0x7A := by
      rcases (isIdPoint_scalar_iff c).1 h with h | h | h | rfl | rfl
      · exact ⟨Nat.le_trans (by decide) (toNat_between h).1, Nat.le_trans (toNat_between h).2 (by decide)⟩
      · exact ⟨Nat.le_trans (by decide) (toNat_between h).1, Nat.le_trans (toNat_between h).2 (by decide)⟩
      · exact ⟨Nat.le_trans (by decide) (toNat_between h).1, Nat.le_trans (toNat_between h).2 (by decide)⟩
      · decide
      · decide
    show (decide (c.toNat < 0x20) || (decide (0x7F ≤ c.toNat) && decide (c.toNat ≤ 0x9F))) = false
    rw [decide_eq_false (by omega), decide_eq_false (p := 0x7F ≤ c.toNat) (by omega)]
    rfl

theorem cleanId_of_other {value : Json} (hnull : value ≠ .null) (hstring : ∀ raw, value ≠ .string raw) :
    cleanId value = .error .notString := by
  cases value with
  | null => exact absurd rfl hnull
  | string raw => exact absurd rfl (hstring raw)
  | _ => rfl

theorem cleanId_text (t : Text) : cleanId (.text t) =
    if Text.trim t = [] then .error .idMissing
    else if (rawOf (Text.trim t)).any isControl then .error .idControl
    else if 128 < (Text.trim t).length then .error .idTooLong
    else if !(rawOf (Text.trim t)).all isIdPoint then .error .idCharacters
    else .ok (Text.trim t) := by
  show (if (trimRaw (rawOf t)).isEmpty then .error .idMissing
    else if (trimRaw (rawOf t)).any isControl then .error .idControl
    else if idLimit < (trimRaw (rawOf t)).length then .error .idTooLong
    else if !(trimRaw (rawOf t)).all isIdPoint then .error .idCharacters
    else .ok (RawText.text (trimRaw (rawOf t))) : Except Reason Text) = _
  simp only [trimRaw_rawOf, List.isEmpty_iff, rawOf_eq_nil_iff, length_rawOf, RawText.text_rawOf]
  rfl

theorem plain_of_cleanId {raw : RawText} {id : Text} (h : cleanId (.string raw) = .ok id) :
    RawText.Plain raw := by
  change (if (trimRaw raw).isEmpty then .error .idMissing
    else if (trimRaw raw).any isControl then .error .idControl
    else if idLimit < (trimRaw raw).length then .error .idTooLong
    else if !(trimRaw raw).all isIdPoint then .error .idCharacters
    else .ok (RawText.text (trimRaw raw)) : Except Reason Text) = .ok id at h
  rw [← plain_trimRaw_iff]
  intro half hmem
  -- a lone half fails the last test, and every test before it ends in a fault too
  have hchars : ((trimRaw raw).all isIdPoint) = false := by
    rw [← Bool.not_eq_true, List.all_eq_true]
    exact fun hall => Bool.noConfusion (hall _ hmem)
  rw [hchars, Bool.not_false, if_pos rfl] at h
  repeat' split at h
  all_goals cases h

theorem cleanId_eq_ok_iff (value : Json) (id : Text) :
    cleanId value = .ok id ↔ value.IdOf id := by
  have text : ∀ t, cleanId (.text t) = .ok id ↔
      id = Text.trim t ∧ 1 ≤ id.length ∧ id.length ≤ 128 ∧ ∀ c ∈ id, IsIdChar c := by
    intro t
    have points : (∀ p ∈ rawOf (Text.trim t), isIdPoint p = true) ↔
        ∀ c ∈ Text.trim t, IsIdChar c := by
      simp only [rawOf, List.forall_mem_map, isIdPoint_scalar_iff]
    rw [cleanId_text]
    constructor
    · intro h
      split at h
      · cases h
      split at h
      · cases h
      split at h
      · cases h
      split at h
      · cases h
      next hempty _ hlong hchars =>
      injection h with h
      subst h
      rw [Bool.not_eq_true', Bool.not_eq_false, List.all_eq_true] at hchars
      exact ⟨rfl, List.length_pos_iff.2 hempty, Nat.not_lt.1 hlong, points.1 hchars⟩
    · rintro ⟨rfl, hshort, hlong, hchars⟩
      have hall := points.2 hchars
      rw [if_neg (List.length_pos_iff.1 hshort), if_neg, if_neg (Nat.not_lt.2 hlong),
        List.all_eq_true.2 hall]
      · rfl
      · -- the test for controls is passed by whatever passes the test for id characters
        intro hany
        obtain ⟨p, hp, hcontrol⟩ := List.any_eq_true.1 hany
        rw [isControl_of_isIdPoint (hall p hp)] at hcontrol
        exact Bool.noConfusion hcontrol
  have null : cleanId .null = .ok id ↔ False := iff_of_false (fun h => by cases h) not_false
  rw [field_eq_ok_iff (fun _ => cleanId_of_other) null (fun raw => plain_of_cleanId) text value]
  simp only [and_false, false_or]
  exact Iff.rfl

/-! ### Types -/

theorem cleanType_of_other {value : Json} (hnull : value ≠ .null) (hstring : ∀ raw, value ≠ .string raw) :
    cleanType value = .error .notString := by
  cases value with
  | null => exact absurd rfl hnull
  | string raw => exact absurd rfl (hstring raw)
  | _ => rfl

theorem cleanType_text (t : Text) : cleanType (.text t) =
    if 120 < (Text.inline t).length then .error .typeTooLong
    else .ok (rawOf (if Text.inline t = [] then "NODE".toList else Text.inline t)) := by
  show (if nameLimit < (cleanInline (rawOf t)).length then .error .typeTooLong
    else if (cleanInline (rawOf t)).isEmpty then .ok (rawOf stepType)
    else .ok (cleanInline (rawOf t)) : Except Reason RawText) = _
  simp only [cleanInline_rawOf, List.isEmpty_iff, rawOf_eq_nil_iff, length_rawOf, apply_ite rawOf,
    apply_ite Except.ok]
  rfl

theorem plain_of_cleanType {raw : RawText} {type : Text}
    (h : cleanType (.string raw) = .ok (rawOf type)) : RawText.Plain raw := by
  change (if nameLimit < (cleanInline raw).length then .error .typeTooLong
    else if (cleanInline raw).isEmpty then .ok (rawOf stepType)
    else .ok (cleanInline raw) : Except Reason RawText) = .ok (rawOf type) at h
  rw [← plain_cleanInline_iff]
  split at h
  · cases h
  split at h
  · next hempty => exact List.isEmpty_iff.1 hempty ▸ RawText.plain_rawOf []
  · injection h with h
    exact h ▸ RawText.plain_rawOf type

theorem cleanType_eq_ok_iff (value : Json) (type : Text) :
    cleanType value = .ok (rawOf type) ↔ value.TypeOf type := by
  refine field_eq_ok_iff (fun _ => cleanType_of_other) ?_ (fun raw => plain_of_cleanType) (fun t => ?_) value
  · show (Except.ok (rawOf stepType) : Except Reason RawText) = .ok (rawOf type) ↔ _
    rw [Except.ok.injEq, rawOf_injective.eq_iff]
    exact eq_comm
  · rw [cleanType_text]
    split
    · next hlong => exact iff_of_false (fun h => by cases h) fun h => absurd hlong (Nat.not_lt.2 h.1)
    · next hlong =>
      rw [Except.ok.injEq, rawOf_injective.eq_iff, and_iff_right (Nat.not_lt.1 hlong)]
      exact eq_comm

/-! ### Labels -/

theorem cleanLabel_of_other {value : Json} (hnull : value ≠ .null) (hstring : ∀ raw, value ≠ .string raw) :
    cleanLabel value = .error .notString := by
  cases value with
  | null => exact absurd rfl hnull
  | string raw => exact absurd rfl (hstring raw)
  | _ => rfl

theorem cleanLabel_text (t : Text) : cleanLabel (.text t) =
    if 120 < (Text.trim (Text.multiline t)).length then .error .labelTooLong
    else .ok ((if Text.trim (Text.multiline t) = [] then none
      else some (Text.trim (Text.multiline t))).map rawOf) := by
  show (if (trimRaw (cleanMultiline (rawOf t))).isEmpty then .ok none
    else if nameLimit < (trimRaw (cleanMultiline (rawOf t))).length then .error .labelTooLong
    else .ok (some (trimRaw (cleanMultiline (rawOf t)))) : Except Reason (Option RawText)) = _
  simp only [cleanMultiline_rawOf, trimRaw_rawOf, List.isEmpty_iff, rawOf_eq_nil_iff, length_rawOf]
  by_cases hempty : Text.trim (Text.multiline t) = []
  · rw [if_pos hempty, hempty]
    rfl
  · rw [if_neg hempty, if_neg hempty]
    rfl

theorem plain_of_cleanLabel {raw : RawText} {label : Option Text}
    (h : cleanLabel (.string raw) = .ok (label.map rawOf)) : RawText.Plain raw := by
  change (if (trimRaw (cleanMultiline raw)).isEmpty then .ok none
    else if nameLimit < (trimRaw (cleanMultiline raw)).length then .error .labelTooLong
    else .ok (some (trimRaw (cleanMultiline raw))) : Except Reason (Option RawText))
      = .ok (label.map rawOf) at h
  rw [← plain_cleanMultiline_iff, ← plain_trimRaw_iff]
  split at h
  · next hempty => exact List.isEmpty_iff.1 hempty ▸ RawText.plain_rawOf []
  split at h
  · cases h
  · injection h with h
    obtain ⟨l, -, hl⟩ := Option.map_eq_some_iff.1 h.symm
    exact hl ▸ RawText.plain_rawOf l

theorem cleanLabel_eq_ok_iff (value : Json) (label : Option Text) :
    cleanLabel value = .ok (label.map rawOf) ↔ value.LabelOf label := by
  refine field_eq_ok_iff (fun _ => cleanLabel_of_other) ?_ (fun raw => plain_of_cleanLabel) (fun t => ?_) value
  · show (Except.ok none : Except Reason (Option RawText)) = .ok (label.map rawOf) ↔ _
    rw [Except.ok.injEq, eq_comm, Option.map_eq_none_iff]
  · rw [cleanLabel_text]
    split
    · next hlong => exact iff_of_false (fun h => by cases h) fun h => absurd hlong (Nat.not_lt.2 h.1)
    · next hlong =>
      rw [Except.ok.injEq, (Option.map_injective rawOf_injective).eq_iff,
        and_iff_right (Nat.not_lt.1 hlong)]
      exact eq_comm

/-! ### Code -/

theorem all_isBlank_rawOf_iff (t : Text) :
    (rawOf t).all Point.isBlank = true ↔ Text.trim t = [] := by
  rw [Text.trim_eq_nil_iff, rawOf, List.all_map]
  exact Iff.rfl

theorem cleanCode_of_other {value : Json} (hnull : value ≠ .null) (hstring : ∀ raw, value ≠ .string raw) :
    cleanCode value = .error .notString := by
  cases value with
  | null => exact absurd rfl hnull
  | string raw => exact absurd rfl (hstring raw)
  | _ => rfl

theorem cleanCode_text (t : Text) : cleanCode (.text t) =
    if Text.trim (Text.multiline t) = [] then .ok none
    else if 20000 < (Text.multiline t).length then .error .codeTooLong
    else .ok (some (rawOf (Text.multiline t))) := by
  show (if (cleanMultiline (rawOf t)).all Point.isBlank then .ok none
    else if codeLimit < (cleanMultiline (rawOf t)).length then .error .codeTooLong
    else .ok (some (cleanMultiline (rawOf t))) : Except Reason (Option RawText)) = _
  simp only [cleanMultiline_rawOf, all_isBlank_rawOf_iff, length_rawOf]
  rfl

theorem plain_of_cleanCode {raw : RawText} {code : Option Text}
    (h : cleanCode (.string raw) = .ok (code.map rawOf)) : RawText.Plain raw := by
  change (if (cleanMultiline raw).all Point.isBlank then .ok none
    else if codeLimit < (cleanMultiline raw).length then .error .codeTooLong
    else .ok (some (cleanMultiline raw)) : Except Reason (Option RawText))
      = .ok (code.map rawOf) at h
  rw [← plain_cleanMultiline_iff]
  split at h
  · next hblank => exact fun half hmem => Bool.noConfusion (List.all_eq_true.1 hblank _ hmem)
  split at h
  · cases h
  · injection h with h
    obtain ⟨c, -, hc⟩ := Option.map_eq_some_iff.1 h.symm
    exact hc ▸ RawText.plain_rawOf c

theorem cleanCode_eq_ok_iff (value : Json) (code : Option Text) :
    cleanCode value = .ok (code.map rawOf) ↔ value.CodeOf code := by
  refine field_eq_ok_iff (fun _ => cleanCode_of_other) ?_ (fun raw => plain_of_cleanCode) (fun t => ?_) value
  · show (Except.ok none : Except Reason (Option RawText)) = .ok (code.map rawOf) ↔ _
    rw [Except.ok.injEq, eq_comm, Option.map_eq_none_iff]
  · rw [cleanCode_text]
    -- blank code is no code before its length is looked at
    by_cases hblank : Text.trim (Text.multiline t) = []
    · rw [if_pos hblank, Except.ok.injEq, eq_comm, Option.map_eq_none_iff]
      simp only [hblank, true_and, ne_eq, not_true, false_and, or_false]
    rw [if_neg hblank]
    simp only [hblank, false_and, false_or, ne_eq, not_false_eq_true, true_and]
    split
    · next hlong => exact iff_of_false (fun h => by cases h) fun h => absurd hlong (Nat.not_lt.2 h.1)
    · next hlong =>
      rw [and_iff_right (Nat.not_lt.1 hlong), Except.ok.injEq]
      show (some (Text.multiline t)).map rawOf = code.map rawOf ↔ _
      rw [(Option.map_injective rawOf_injective).eq_iff]
      exact eq_comm

/-! ## Items and wholes -/

namespace Json

/-- A value stands for a node: an object whose members stand for the parts. -/
def NodeOf (value : Json) (n : Node) : Prop :=
  ∃ members, value = .object members ∧ (member "id" members).IdOf n.id ∧
    (member "type" members).TypeOf n.type ∧ (member "label" members).LabelOf n.label ∧
    (member "code" members).CodeOf n.code

/-- A value stands for an edge: an object whose members stand for the two ends. -/
def EdgeOf (value : Json) (e : Edge) : Prop :=
  ∃ members, value = .object members ∧ (member "source" members).IdOf e.source ∧
    (member "target" members).IdOf e.target

/-- The items of a value: those of an array, and none for null. -/
def ItemsOf (value : Json) (items : List Json) : Prop :=
  (value = .null ∧ items = []) ∨ value = .array items

theorem ItemsOf.unique {value : Json} {items items' : List Json} (h : value.ItemsOf items)
    (h' : value.ItemsOf items') : items = items' := by
  cases value with
  | null =>
    rcases h with ⟨-, rfl⟩ | h
    · rcases h' with ⟨-, rfl⟩ | h'
      · rfl
      · cases h'
    · cases h
  | array found =>
    rcases h with ⟨h, -⟩ | h
    · cases h
    rcases h' with ⟨h', -⟩ | h'
    · cases h'
    exact (array.inj h).symm.trans (array.inj h')
  | _ =>
    rcases h with ⟨h, -⟩ | h
    · cases h
    · cases h

/-- A value stands for a graph: an object with at most 200 nodes and at most 600 edges. -/
def Describes (value : Json) (g : Graph) : Prop :=
  ∃ members nodes edges, value = .object members ∧ (member "nodes" members).ItemsOf nodes ∧
    (member "edges" members).ItemsOf edges ∧ nodes.length ≤ 200 ∧ edges.length ≤ 600 ∧
    List.Forall₂ NodeOf nodes g.nodes ∧ List.Forall₂ EdgeOf edges g.edges

end Json

theorem expectObject_eq_ok_iff (place : Place) (value : Json) (members : List (RawText × Json)) :
    expectObject place value = .ok members ↔ value = .object members := by
  cases value <;> simp [expectObject]

theorem expectArray_eq_ok_iff (place : Place) (value : Json) (items : List Json) :
    expectArray place value = .ok items ↔ value.ItemsOf items := by
  cases value <;> simp [expectArray, Json.ItemsOf, eq_comm]

theorem cleanNode_eq_ok_iff (index : Nat) (value : Json) (n : Node) :
    cleanNode index value = .ok n.toDraft ↔ value.NodeOf n := by
  unfold cleanNode Json.NodeOf at'
  simp only [bind_eq_ok_iff, expectObject_eq_ok_iff, mapError_eq_ok_iff, cleanId_eq_ok_iff]
  constructor
  · rintro ⟨members, rfl, id, hid, type, htype, label, hlabel, code, hcode, heq⟩
    injection heq with heq
    injection heq with hid' htype' hlabel' hcode'
    subst hid' htype' hlabel' hcode'
    exact ⟨members, rfl, hid, (cleanType_eq_ok_iff _ _).1 htype, (cleanLabel_eq_ok_iff _ _).1 hlabel,
      (cleanCode_eq_ok_iff _ _).1 hcode⟩
  · rintro ⟨members, rfl, hid, htype, hlabel, hcode⟩
    exact ⟨members, rfl, n.id, hid, rawOf n.type, (cleanType_eq_ok_iff _ _).2 htype,
      n.label.map rawOf, (cleanLabel_eq_ok_iff _ _).2 hlabel,
      n.code.map rawOf, (cleanCode_eq_ok_iff _ _).2 hcode, rfl⟩

theorem cleanEdge_eq_ok_iff (index : Nat) (value : Json) (e : Edge) :
    cleanEdge index value = .ok e ↔ value.EdgeOf e := by
  unfold cleanEdge Json.EdgeOf at'
  simp only [bind_eq_ok_iff, expectObject_eq_ok_iff, mapError_eq_ok_iff, cleanId_eq_ok_iff]
  constructor
  · rintro ⟨members, rfl, source, hsource, target, htarget, heq⟩
    injection heq with heq
    subst heq
    exact ⟨members, rfl, hsource, htarget⟩
  · rintro ⟨members, rfl, hsource, htarget⟩
    exact ⟨members, rfl, e.source, hsource, e.target, htarget, rfl⟩

/-- Cleaning gives the draft of a graph exactly if the value stands for that graph. -/
theorem cleanGraph_eq_ok_iff (value : Json) (g : Graph) :
    cleanGraph value = .ok g.toDraft ↔ value.Describes g := by
  have nodesRead := mapM_zipIdx_eq_ok_map_iff cleanNode_eq_ok_iff 0
  have edgesRead := mapM_zipIdx_eq_ok_iff cleanEdge_eq_ok_iff 0
  unfold cleanGraph Json.Describes
  simp only [bind_eq_ok_iff, expectObject_eq_ok_iff, expectArray_eq_ok_iff]
  constructor
  · rintro ⟨members, rfl, nodes, hnodes, edges, hedges, h⟩
    split at h
    · cases h
    split at h
    · cases h
    next hfewNodes hfewEdges =>
    simp only [bind_eq_ok_iff] at h
    obtain ⟨draftNodes, hdraftNodes, draftEdges, hdraftEdges, heq⟩ := h
    injection heq with heq
    injection heq with hn he
    subst hn he
    exact ⟨members, nodes, edges, rfl, hnodes, hedges, Nat.not_lt.1 hfewNodes,
      Nat.not_lt.1 hfewEdges, (nodesRead nodes g.nodes).1 hdraftNodes,
      (edgesRead edges g.edges).1 hdraftEdges⟩
  · rintro ⟨members, nodes, edges, rfl, hnodes, hedges, hfewNodes, hfewEdges, hread, hread'⟩
    refine ⟨members, rfl, nodes, hnodes, edges, hedges, ?_⟩
    rw [if_neg (show ¬ nodeLimit < nodes.length from Nat.not_lt.2 hfewNodes),
      if_neg (show ¬ edgeLimit < edges.length from Nat.not_lt.2 hfewEdges), bind_eq_ok_iff]
    refine ⟨g.nodes.map Node.toDraft, (nodesRead nodes g.nodes).2 hread, ?_⟩
    rw [bind_eq_ok_iff]
    exact ⟨g.edges, (edgesRead edges g.edges).2 hread', rfl⟩

/-! ## The JSON form of a graph

What a value stands for is clean already, so that its JSON form stands for the same thing. -/

namespace Json

theorem IdOf.text {value : Json} {id : Text} (h : value.IdOf id) : (Json.text id).IdOf id := by
  obtain ⟨t, -, rfl, bounds⟩ := h
  exact ⟨Text.trim t, rfl, (Text.trim_trim t).symm, bounds⟩

theorem TypeOf.text {value : Json} {type : Text} (h : value.TypeOf type) :
    (Json.text type).TypeOf type := by
  have step : (Json.text "NODE".toList).TypeOf "NODE".toList :=
    Or.inr ⟨"NODE".toList, rfl, by decide, by decide⟩
  rcases h with ⟨-, rfl⟩ | ⟨t, -, hlong, rfl⟩
  · exact step
  · split
    · exact step
    · -- a clean line is its own clean line
      next hempty =>
      refine Or.inr ⟨Text.inline t, rfl, ?_, ?_⟩
      · rw [Text.inline_inline]
        exact hlong
      · rw [Text.inline_inline, if_neg hempty]

theorem LabelOf.text {value : Json} {label : Option Text} (h : value.LabelOf label) :
    (label.elim Json.null Json.text).LabelOf label := by
  rcases h with ⟨-, rfl⟩ | ⟨t, -, hlong, rfl⟩
  · exact Or.inl ⟨rfl, rfl⟩
  · split
    · exact Or.inl ⟨rfl, rfl⟩
    · next hempty =>
      refine Or.inr ⟨Text.trim (Text.multiline t), rfl, ?_, ?_⟩
      · rw [Text.multiline_trim_multiline, Text.trim_trim]
        exact hlong
      · rw [Text.multiline_trim_multiline, Text.trim_trim, if_neg hempty]

theorem CodeOf.text {value : Json} {code : Option Text} (h : value.CodeOf code) :
    (code.elim Json.null Json.text).CodeOf code := by
  rcases h with ⟨-, rfl⟩ | ⟨t, -, ⟨-, rfl⟩ | ⟨hfull, hlong, rfl⟩⟩
  · exact Or.inl ⟨rfl, rfl⟩
  · exact Or.inl ⟨rfl, rfl⟩
  · refine Or.inr ⟨Text.multiline t, rfl, Or.inr ?_⟩
    rw [Text.multiline_multiline]
    exact ⟨hfull, hlong, rfl⟩

end Json

/-- The members of a node's JSON form. An absent part has none, which reads like null. -/
theorem Node.exists_members (n : Node) : ∃ members, n.toJson = .object members ∧
    Json.member "id" members = .text n.id ∧ Json.member "type" members = .text n.type ∧
    Json.member "label" members = n.label.elim Json.null Json.text ∧
    Json.member "code" members = n.code.elim Json.null Json.text := by
  obtain ⟨id, type, label, code⟩ := n
  refine ⟨_, rfl, ?_⟩
  cases label <;> cases code <;> exact ⟨rfl, rfl, rfl, rfl⟩

theorem Edge.exists_members (e : Edge) : ∃ members, e.toJson = .object members ∧
    Json.member "source" members = .text e.source ∧
    Json.member "target" members = .text e.target :=
  ⟨_, rfl, rfl, rfl⟩

theorem Graph.exists_members (g : Graph) : ∃ members, g.toJson = .object members ∧
    Json.member "nodes" members = .array (g.nodes.map Node.toJson) ∧
    Json.member "edges" members = .array (g.edges.map Edge.toJson) := by
  refine ⟨_, rfl, ?_, rfl⟩
  show Json.array ((g.nodes.map Node.toDraft).map DraftNode.toJson) = _
  rw [List.map_map]
  rfl

theorem Json.NodeOf.toJson {value : Json} {n : Node} (h : value.NodeOf n) : n.toJson.NodeOf n := by
  obtain ⟨_, _, hid, htype, hlabel, hcode⟩ := h
  obtain ⟨members, hmembers, id, type, label, code⟩ := n.exists_members
  refine ⟨members, hmembers, ?_⟩
  rw [id, type, label, code]
  exact ⟨hid.text, htype.text, hlabel.text, hcode.text⟩

theorem Json.EdgeOf.toJson {value : Json} {e : Edge} (h : value.EdgeOf e) : e.toJson.EdgeOf e := by
  obtain ⟨_, _, hsource, htarget⟩ := h
  obtain ⟨members, hmembers, source, target⟩ := e.exists_members
  refine ⟨members, hmembers, ?_⟩
  rw [source, target]
  exact ⟨hsource.text, htarget.text⟩

/-- What is read from some items is read again from its own written forms. -/
theorem forall₂_map_self {α γ : Type} {R : α → γ → Prop} {view : γ → α}
    {items : List α} {results : List γ} (related : List.Forall₂ R items results)
    (h : ∀ {a c}, R a c → R (view c) c) : List.Forall₂ R (results.map view) results := by
  rw [List.forall₂_map_left_iff, List.forall₂_same]
  intro c hc
  obtain ⟨a, -, hac⟩ := exists_of_mem_forall₂ related hc
  exact h hac

/-- The JSON form of the graph that a value stands for stands for that graph. -/
theorem Json.Describes.toJson {value : Json} {g : Graph} (h : value.Describes g) :
    g.toJson.Describes g := by
  obtain ⟨_, nodes, edges, _, _, _, hfewNodes, hfewEdges, hnodes, hedges⟩ := h
  obtain ⟨members, hmembers, nodesMember, edgesMember⟩ := g.exists_members
  refine ⟨members, g.nodes.map Node.toJson, g.edges.map Edge.toJson, hmembers, ?_⟩
  rw [nodesMember, edgesMember, List.length_map, List.length_map, ← hnodes.length_eq,
    ← hedges.length_eq]
  exact ⟨Or.inr rfl, Or.inr rfl, hfewNodes, hfewEdges,
    forall₂_map_self hnodes Json.NodeOf.toJson, forall₂_map_self hedges Json.EdgeOf.toJson⟩

end GraphScribe
