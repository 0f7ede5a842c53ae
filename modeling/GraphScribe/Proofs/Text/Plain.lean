import GraphScribe.Text.Point
import Mathlib.Data.List.DropRight

/-!
# Plain raw texts

A raw text is *plain* when it has no lone half, that is when it is a text. Trimming and the leaving
out of characters neither add nor take away lone halves, so that a cleaned raw text is a text exactly
if the raw text was one, and cleaning can be studied on texts.
-/

namespace GraphScribe

/-! ## Trimming -/

theorem trimBy_eq_rdropWhile {α : Type} (p : α → Bool) (xs : List α) :
    trimBy p xs = (xs.dropWhile p).rdropWhile p := rfl

/-- Trimming keeps every element that it has no reason to take away. -/
theorem mem_trimBy_iff {α : Type} {p : α → Bool} {x : α} (hx : p x = false) (xs : List α) :
    x ∈ trimBy p xs ↔ x ∈ xs := by
  have front : x ∉ xs.takeWhile p := fun h => by
    rw [List.mem_takeWhile_imp h] at hx
    exact absurd hx (by simp)
  have back : x ∉ ((xs.dropWhile p).reverse.takeWhile p).reverse := fun h => by
    rw [List.mem_takeWhile_imp (List.mem_reverse.1 h)] at hx
    exact absurd hx (by simp)
  conv_rhs => rw [trimBy_append p xs]
  rw [List.mem_append, List.mem_append]
  simp only [front, back, false_or, or_false]

theorem mem_of_mem_trimBy {α : Type} {p : α → Bool} {x : α} {xs : List α} (h : x ∈ trimBy p xs) :
    x ∈ xs := by
  rw [trimBy_append p xs]
  exact List.mem_append_left _ (List.mem_append_right _ h)

theorem dropWhile_trimBy {α : Type} (p : α → Bool) (xs : List α) :
    (trimBy p xs).dropWhile p = trimBy p xs := by
  rw [List.dropWhile_eq_self_iff]
  intro hlen
  have hprefix : trimBy p xs <+: xs.dropWhile p := List.rdropWhile_prefix p _
  have hlong : 0 < (xs.dropWhile p).length := Nat.lt_of_lt_of_le hlen hprefix.length_le
  have same : (trimBy p xs)[0] = (xs.dropWhile p)[0] := hprefix.getElem hlen
  rw [same]
  exact List.dropWhile_get_zero_not _ xs hlong

/-- A trimmed list has nothing left to trim. -/
theorem trimBy_trimBy {α : Type} (p : α → Bool) (xs : List α) :
    trimBy p (trimBy p xs) = trimBy p xs := by
  rw [trimBy_eq_rdropWhile p (trimBy p xs), dropWhile_trimBy, trimBy_eq_rdropWhile,
    List.rdropWhile_idempotent]

/-- The first element that trimming leaves is none that it takes away. -/
theorem not_of_mem_head?_trimBy {α : Type} {p : α → Bool} {xs : List α} {x : α}
    (h : x ∈ (trimBy p xs).head?) : p x = false := by
  have first := List.head?_dropWhile_not p (trimBy p xs)
  rw [dropWhile_trimBy, Option.mem_def.1 h] at first
  exact first

/-- The last element that trimming leaves is none that it takes away. -/
theorem not_of_trimBy_eq_append {α : Type} {p : α → Bool} {xs front : List α} {x : α}
    (h : trimBy p xs = front ++ [x]) : p x = false := by
  have hne : (xs.dropWhile p).rdropWhile p ≠ [] := by
    rw [← trimBy_eq_rdropWhile, h]
    simp
  have last := List.rdropWhile_last_not p (xs.dropWhile p) hne
  simp only [← trimBy_eq_rdropWhile, h, List.getLast_append_singleton] at last
  exact Bool.eq_false_iff.2 last

theorem not_of_mem_getLast?_trimBy {α : Type} {p : α → Bool} {xs : List α} {x : α}
    (h : x ∈ (trimBy p xs).getLast?) : p x = false := by
  obtain ⟨front, heq⟩ := List.getLast?_eq_some_iff.1 h
  exact not_of_trimBy_eq_append heq

/-- What is put in front only to be taken away again changes nothing. -/
theorem trimBy_append_left {α : Type} {p : α → Bool} {front : List α} (h : ∀ x ∈ front, p x = true)
    (xs : List α) : trimBy p (front ++ xs) = trimBy p xs := by
  unfold trimBy
  rw [List.dropWhile_append_of_pos h]

theorem trimBy_append_right {α : Type} {p : α → Bool} {back : List α} (h : ∀ x ∈ back, p x = true)
    (xs : List α) : trimBy p (xs ++ back) = trimBy p xs := by
  unfold trimBy
  rw [List.dropWhile_append]
  split
  · next hnil => rw [List.isEmpty_iff.1 hnil, List.dropWhile_eq_nil_iff.2 h]
  · have reversed : ∀ x ∈ back.reverse, p x = true := fun x hx => h x (List.mem_reverse.1 hx)
    rw [List.reverse_append, List.dropWhile_append_of_pos reversed]

theorem trimBy_eq_nil {α : Type} {p : α → Bool} {xs : List α} (h : ∀ x ∈ xs, p x = true) :
    trimBy p xs = [] := by
  have front := trimBy_append_left h []
  rwa [List.append_nil] at front

/-- A list in which nothing is to be taken off stays as it is. -/
theorem trimBy_eq_self_of_forall {α : Type} {p : α → Bool} {xs : List α} (h : ∀ x ∈ xs, p x = false) :
    trimBy p xs = xs := by
  have front : xs.dropWhile p = xs :=
    List.dropWhile_eq_self_iff.2 fun hlen => Bool.eq_false_iff.1 (h _ (List.getElem_mem hlen))
  rw [trimBy_eq_rdropWhile, front]
  exact List.rdropWhile_eq_self_iff.2 fun hne => Bool.eq_false_iff.1 (h _ (List.getLast_mem hne))

/-- Between two elements that stay, everything stays. -/
theorem trimBy_eq_self {α : Type} {p : α → Bool} {x y : α} (hx : p x = false) (hy : p y = false)
    (middle : List α) : trimBy p (x :: (middle ++ [y])) = x :: (middle ++ [y]) := by
  have stays : ¬ p x = true := by rw [hx]; exact Bool.false_ne_true
  have stays' : ¬ p y = true := by rw [hy]; exact Bool.false_ne_true
  have reversed : (x :: (middle ++ [y])).reverse = y :: (middle.reverse ++ [x]) := by simp
  unfold trimBy
  rw [List.dropWhile_cons_of_neg stays, reversed, List.dropWhile_cons_of_neg stays', ← reversed,
    List.reverse_reverse]

theorem trimBy_map {α β : Type} (f : α → β) (p : β → Bool) (xs : List α) :
    trimBy p (xs.map f) = (trimBy (p ∘ f) xs).map f := by
  unfold trimBy
  rw [List.dropWhile_map, ← List.map_reverse, List.dropWhile_map, ← List.map_reverse]

theorem trimBy_congr {α : Type} {p q : α → Bool} {xs : List α} (h : ∀ x ∈ xs, p x = q x) :
    trimBy p xs = trimBy q xs := by
  have drop : ∀ ys : List α, (∀ y ∈ ys, p y = q y) → ys.dropWhile p = ys.dropWhile q := by
    intro ys hys
    induction ys with
    | nil => rfl
    | cons y ys ih =>
      rw [List.forall_mem_cons] at hys
      rw [List.dropWhile_cons, List.dropWhile_cons, hys.1, ih hys.2]
  unfold trimBy
  rw [drop xs h, drop]
  intro x hx
  exact h x ((List.dropWhile_suffix q).subset (List.mem_reverse.1 hx))

/-- Elements may be changed after trimming as well as before, if trimming cannot tell. -/
theorem trimBy_map_of_forall {α : Type} {p : α → Bool} {f : α → α} {xs : List α}
    (h : ∀ x ∈ xs, p (f x) = p x) : trimBy p (xs.map f) = (trimBy p xs).map f := by
  rw [trimBy_map]
  exact congrArg (List.map f) (trimBy_congr h)

/-! ## Texts and raw texts -/

/-- The number of a character is that of no lone half. -/
theorem Point.ofNat_toNat (c : Char) : Point.ofNat c.toNat = .scalar c := by
  have noHalf : c.toNat < 0xD800 ∨ 0xDFFF < c.toNat ∧ c.toNat < 0x110000 := c.valid
  unfold Point.ofNat
  rw [dif_neg (by omega), if_pos (by omega), Char.ofNat_toNat]

namespace RawText

/-- A raw text without lone halves. -/
def Plain (raw : RawText) : Prop := ∀ half, Point.lone half ∉ raw

theorem plain_rawOf (t : Text) : Plain (rawOf t) := by
  intro half h
  obtain ⟨c, -, hc⟩ := List.mem_map.1 h
  exact Point.noConfusion hc

theorem plain_iff_exists_rawOf (raw : RawText) : Plain raw ↔ ∃ t, raw = rawOf t := by
  constructor
  · intro h
    induction raw with
    | nil => exact ⟨[], rfl⟩
    | cons p rest ih =>
      obtain ⟨t, ht⟩ := ih fun half hmem => h half (List.mem_cons_of_mem _ hmem)
      cases p with
      | scalar c => exact ⟨c :: t, by rw [ht]; rfl⟩
      | lone half => exact absurd List.mem_cons_self (h half)
  · rintro ⟨t, rfl⟩
    exact plain_rawOf t

/-- No run of lone halves is found exactly in a plain raw text. -/
theorem firstLoneRun?_eq_none_iff (raw : RawText) : firstLoneRun? raw = none ↔ Plain raw := by
  have rest : raw.drop (raw.takeWhile fun p => !p.isLone).length
      = raw.dropWhile fun p => !p.isLone := by
    have := @List.drop_left _ (raw.takeWhile fun p => !p.isLone)
      (raw.dropWhile fun p => !p.isLone)
    rwa [List.takeWhile_append_dropWhile] at this
  -- the run that is found is what the lone halves after the first stretch of characters make
  have found : firstLoneRun? raw = none ↔
      (raw.dropWhile fun p => !p.isLone).takeWhile Point.isLone = [] := by
    unfold firstLoneRun?
    dsimp only
    rw [rest]
    split
    · next h => exact iff_of_true rfl h
    · next h => exact iff_of_false (by simp) h
  rw [found]
  constructor
  · intro h half hmem
    cases hdrop : raw.dropWhile fun p => !p.isLone with
    | nil =>
      rw [List.dropWhile_eq_nil_iff] at hdrop
      exact absurd (hdrop _ hmem) (by simp [Point.isLone])
    | cons p others =>
      -- the walk stops at a lone half, which then opens a run
      have hp : p.isLone = true := by
        have := List.head?_dropWhile_not (fun p : Point => !p.isLone) raw
        rw [hdrop] at this
        simpa using this
      rw [hdrop, List.takeWhile_cons, if_pos hp] at h
      exact absurd h (by simp)
  · intro h
    have none_left : (raw.dropWhile fun p => !p.isLone) = [] := by
      rw [List.dropWhile_eq_nil_iff]
      intro p hp
      cases p with
      | scalar c => rfl
      | lone half => exact absurd hp (h half)
    rw [none_left, List.takeWhile_nil]

end RawText

theorem rawOf_injective : Function.Injective rawOf := by
  intro s t h
  rw [← RawText.text_rawOf s, h, RawText.text_rawOf]

@[simp] theorem rawOf_eq_nil_iff (t : Text) : rawOf t = [] ↔ t = [] := List.map_eq_nil_iff

@[simp] theorem length_rawOf (t : Text) : (rawOf t).length = t.length := List.length_map ..

end GraphScribe
