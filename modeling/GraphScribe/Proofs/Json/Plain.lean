import GraphScribe.Json.Writer
import GraphScribe.Proofs.Text.Plain

/-!
# Plain JSON

Writing a JSON value keeps the lone halves of its strings and keys, and adds none. So the written
form is a text exactly if all strings and keys of the value are (`plain_writeAt_iff`).
-/

namespace GraphScribe.Json

mutual

/-- The strings and keys of a value, at any depth. -/
def texts : Json → List RawText
  | null => []
  | bool _ => []
  | number _ => []
  | string t => [t]
  | array items => textsOfItems items
  | object members => textsOfMembers members

/-- The strings and keys of some values. -/
def textsOfItems : List Json → List RawText
  | [] => []
  | item :: items => texts item ++ textsOfItems items

/-- The strings and keys of some members. -/
def textsOfMembers : List (RawText × Json) → List RawText
  | [] => []
  | (key, value) :: members => key :: texts value ++ textsOfMembers members

end

theorem mem_textsOfItems_iff (t : RawText) (items : List Json) :
    t ∈ textsOfItems items ↔ ∃ item ∈ items, t ∈ texts item := by
  induction items with
  | nil => simp [textsOfItems]
  | cons item items ih => rw [textsOfItems, List.mem_append, ih, List.exists_mem_cons_iff]

theorem not_lone_mem_rawOf (half : Fin 2048) (t : Text) : Point.lone half ∉ rawOf t :=
  RawText.plain_rawOf t half

/-! ## Lone halves of strings and brackets -/

theorem lone_mem_stringPoint_iff (half : Fin 2048) (p : Point) :
    Point.lone half ∈ stringPoint p ↔ Point.lone half = p := by
  cases p with
  | lone other => rw [stringPoint, List.mem_singleton]
  | scalar c =>
    have other : Point.lone half ≠ Point.scalar c := fun h => Point.noConfusion h
    -- a character is written in one of several forms, none of which holds a lone half
    unfold stringPoint
    dsimp only
    repeat' split
    all_goals first
      | exact iff_of_false (not_lone_mem_rawOf half _) other
      | rw [List.mem_singleton]

theorem lone_mem_stringLiteral_iff (half : Fin 2048) (t : RawText) :
    Point.lone half ∈ stringLiteral t ↔ Point.lone half ∈ t := by
  -- the two quotes around the string are characters
  have quote : Point.lone half ≠ Point.scalar '\x22' := fun h => Point.noConfusion h
  unfold stringLiteral
  rw [List.mem_append, List.mem_cons, List.mem_singleton, List.mem_flatMap]
  simp only [quote, false_or, or_false, lone_mem_stringPoint_iff, exists_eq_right']

theorem lone_mem_bracketed_iff (layout : Layout) (depth : Nat) (left right : Char) (half : Fin 2048)
    (items : List RawText) : Point.lone half ∈ bracketed layout depth left right items ↔
      ∃ item ∈ items, Point.lone half ∈ item := by
  cases items with
  | nil => exact iff_of_false (not_lone_mem_rawOf half _) (by simp)
  | cons item items =>
    unfold bracketed
    simp only [List.mem_append, List.mem_flatMap, not_lone_mem_rawOf, false_or, or_false,
      List.exists_mem_cons_iff]

/-! ## Lone halves of values -/

mutual

theorem lone_mem_writeAt_iff (layout : Layout) (half : Fin 2048) :
    ∀ (depth : Nat) (value : Json), Point.lone half ∈ writeAt layout depth value ↔
      ∃ t ∈ texts value, Point.lone half ∈ t
  | _, null => iff_of_false (not_lone_mem_rawOf half _) (by simp [texts])
  | _, bool _ => iff_of_false (not_lone_mem_rawOf half _) (by simp [texts])
  | _, number _ => iff_of_false (not_lone_mem_rawOf half _) (by simp [texts])
  | _, string t => by
    rw [writeAt, texts, lone_mem_stringLiteral_iff]
    simp only [List.mem_singleton, exists_eq_left]
  | depth, array items => by
    rw [writeAt, texts, lone_mem_bracketed_iff]
    exact lone_mem_writeItems_iff layout half (depth + 1) items
  | depth, object members => by
    rw [writeAt, texts, lone_mem_bracketed_iff]
    exact lone_mem_writeMembers_iff layout half (depth + 1) members

theorem lone_mem_writeItems_iff (layout : Layout) (half : Fin 2048) :
    ∀ (depth : Nat) (items : List Json),
      (∃ written ∈ writeItems layout depth items, Point.lone half ∈ written) ↔
        ∃ t ∈ textsOfItems items, Point.lone half ∈ t
  | _, [] => by simp only [writeItems, textsOfItems]
  | depth, item :: items => by
    rw [writeItems, textsOfItems, List.exists_mem_cons_iff, lone_mem_writeAt_iff,
      lone_mem_writeItems_iff]
    simp only [List.mem_append, or_and_right, exists_or]

theorem lone_mem_writeMembers_iff (layout : Layout) (half : Fin 2048) :
    ∀ (depth : Nat) (members : List (RawText × Json)),
      (∃ written ∈ writeMembers layout depth members, Point.lone half ∈ written) ↔
        ∃ t ∈ textsOfMembers members, Point.lone half ∈ t
  | _, [] => by simp only [writeMembers, textsOfMembers]
  | depth, (key, value) :: members => by
    rw [writeMembers, textsOfMembers, List.exists_mem_cons_iff, lone_mem_writeMembers_iff]
    simp only [List.mem_append, List.mem_cons, lone_mem_stringLiteral_iff, not_lone_mem_rawOf,
      or_false, lone_mem_writeAt_iff, or_and_right, exists_or, exists_eq_left, or_assoc]

end

/-- The written form of a value is a text exactly if all its strings and keys are. -/
theorem plain_writeAt_iff (layout : Layout) (depth : Nat) (value : Json) :
    RawText.Plain (writeAt layout depth value) ↔ ∀ t ∈ texts value, RawText.Plain t := by
  unfold RawText.Plain
  simp only [lone_mem_writeAt_iff, not_exists, not_and]
  exact ⟨fun h t ht half => h half t ht, fun h half t ht => h t ht half⟩

/-! ## Parts of plain values -/

/-- A value without lone halves: its strings and keys are texts, at any depth. -/
def Plain (value : Json) : Prop := ∀ t ∈ texts value, RawText.Plain t

theorem plain_null : Plain null := fun _ ht => absurd ht List.not_mem_nil

theorem Plain.item {items : List Json} (h : Plain (array items)) {item : Json}
    (hitem : item ∈ items) : Plain item :=
  fun t ht => h t ((mem_textsOfItems_iff t items).2 ⟨item, hitem, ht⟩)

theorem mem_textsOfMembers_of_lastMember? {key : RawText} {members : List (RawText × Json)}
    {value : Json} (h : lastMember? key members = some value) {t : RawText} (ht : t ∈ texts value) :
    t ∈ textsOfMembers members := by
  induction members with
  | nil => cases h
  | cons first rest ih =>
    obtain ⟨k, v⟩ := first
    rw [textsOfMembers, List.mem_append, List.mem_cons]
    rw [lastMember?] at h
    split at h
    · next w hw =>
      cases h
      exact Or.inr (ih hw)
    split at h
    · cases h
      exact Or.inl (Or.inr ht)
    · cases h

theorem Plain.member {members : List (RawText × Json)} (h : Plain (object members)) (key : String) :
    Plain (Json.member key members) := by
  unfold Json.member
  cases hfound : lastMember? (rawOf key.toList) members with
  | none => exact plain_null
  | some value => exact fun t ht => h t (mem_textsOfMembers_of_lastMember? hfound ht)

end GraphScribe.Json
