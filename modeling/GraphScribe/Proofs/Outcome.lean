import Mathlib.Data.List.Forall2

/-!
# Outcomes

When a composed outcome is a result, each of its parts is one. Main statement: a list of items is
cleaned or planned as a whole exactly if each item is, whatever its index
(`mapM_zipIdx_eq_ok_iff`). What is said of whole lists is said with `List.Forall₂`, member by member.

When a composed outcome is an error, one of its parts is that error: `FailsAs` says of what kind the
errors of an outcome are, and is closed under composition.
-/

namespace GraphScribe

variable {ε ε' α β γ : Type}

theorem ok_bind (a : α) (next : α → Except ε β) : (Except.ok a >>= next) = next a := rfl

/-- One outcome after another is a result exactly if both are. -/
theorem bind_eq_ok_iff {first : Except ε α} {next : α → Except ε β} {b : β} :
    (first >>= next) = .ok b ↔ ∃ a, first = .ok a ∧ next a = .ok b := by
  cases first with
  | error e => exact iff_of_false (by simp [bind, Except.bind]) (by simp)
  | ok a =>
    constructor
    · exact fun h => ⟨a, rfl, h⟩
    · rintro ⟨a', ha, h⟩
      injection ha with ha
      exact ha ▸ h

theorem mapError_eq_ok_iff {f : ε → ε'} {outcome : Except ε α} {a : α} :
    outcome.mapError f = .ok a ↔ outcome = .ok a := by
  cases outcome with
  | error e => exact iff_of_false (by simp [Except.mapError]) (by simp)
  | ok b => simp [Except.mapError]

theorem map_eq_error_iff {f : α → β} {outcome : Except ε α} {e : ε} :
    outcome.map f = .error e ↔ outcome = .error e := by
  cases outcome with
  | error e' => simp [Except.map]
  | ok a => exact iff_of_false (by simp [Except.map]) (by simp)

theorem eq_ok_of_toOption {outcome : Except ε α} {a : α} (h : outcome.toOption = some a) :
    outcome = .ok a := by
  cases outcome with
  | error e => exact absurd h (by simp [Except.toOption])
  | ok b => exact congrArg Except.ok (Option.some.inj h)

/-- Items with their indices give results, one by one and up to `view`, exactly if they are related
to them one by one. Induction on the items; the index they start at is free. -/
theorem mapM_zipIdx_eq_ok_map_iff {f : Nat → α → Except ε β} {view : γ → β} {R : α → γ → Prop}
    (h : ∀ i a c, f i a = .ok (view c) ↔ R a c) (start : Nat) (items : List α) (results : List γ) :
    (items.zipIdx start).mapM (fun (a, i) => f i a) = .ok (results.map view) ↔
      List.Forall₂ R items results := by
  induction items generalizing start results with
  | nil =>
    rw [List.zipIdx_nil, List.mapM_nil]
    cases results with
    | nil => exact iff_of_true rfl .nil
    | cons c rest => exact iff_of_false (by simp [pure, Except.pure]) (by simp)
  | cons a items ih =>
    rw [List.zipIdx_cons, List.mapM_cons, bind_eq_ok_iff]
    simp only [bind_eq_ok_iff]
    constructor
    · rintro ⟨b, hb, bs, hbs, heq⟩
      -- the list of results was made by `cons`, so the two heads and tails agree
      cases results with
      | nil => exact absurd heq (by simp [pure, Except.pure])
      | cons c rest =>
        injection heq with heq
        injection heq with hhead htail
        exact .cons ((h start a c).1 (hhead ▸ hb)) ((ih (start + 1) rest).1 (htail ▸ hbs))
    · intro related
      cases related with
      | @cons _ c _ rest hc hrest =>
        exact ⟨view c, (h start a c).2 hc, rest.map view, (ih (start + 1) rest).2 hrest, rfl⟩

/-- Items with their indices give results one by one exactly if they are related to them one by
one. -/
theorem mapM_zipIdx_eq_ok_iff {f : Nat → α → Except ε β} {R : α → β → Prop}
    (h : ∀ i a b, f i a = .ok b ↔ R a b) (start : Nat) (items : List α) (results : List β) :
    (items.zipIdx start).mapM (fun (a, i) => f i a) = .ok results ↔
      List.Forall₂ R items results := by
  have viewed : ∀ i a b, f i a = .ok (id b) ↔ R a b := h
  rw [← mapM_zipIdx_eq_ok_map_iff viewed start items results, List.map_id]

/-- Items that are each read back from what is written for them are read back as a whole. -/
theorem mapM_map_eq_ok {f : β → Except ε α} {view : α → β} (h : ∀ a, f (view a) = .ok a)
    (items : List α) : (items.map view).mapM f = .ok items := by
  induction items with
  | nil => rfl
  | cons a items ih =>
    rw [List.map_cons, List.mapM_cons, h, ok_bind, ih]
    rfl

/-- To view each result is to view the results as a whole. -/
theorem mapM_map_outcome (f : α → Except ε β) (view : β → γ) (items : List α) :
    (items.mapM fun a => (f a).map view) = (items.mapM f).map (List.map view) := by
  induction items with
  | nil => rfl
  | cons a items ih =>
    rw [List.mapM_cons, List.mapM_cons, ih]
    cases f a with
    | error e => rfl
    | ok b => cases items.mapM f <;> rfl

/-- Each item gives a result exactly if the results are those of the items one by one. -/
theorem mapM_eq_some_iff {f : α → Option β} {items : List α} {results : List β} :
    items.mapM f = some results ↔ List.Forall₂ (fun a b => f a = some b) items results := by
  induction items generalizing results with
  | nil =>
    rw [List.mapM_nil, List.forall₂_nil_left_iff]
    exact ⟨fun h => (Option.some.inj h).symm, fun h => h ▸ rfl⟩
  | cons a items ih =>
    rw [List.mapM_cons, List.forall₂_cons_left_iff]
    simp only [Option.bind_eq_bind, Option.bind_eq_some_iff, ih]
    constructor
    · rintro ⟨b, hb, rest, hrest, heq⟩
      exact ⟨b, rest, hb, hrest, (Option.some.inj heq).symm⟩
    · rintro ⟨b, rest, hb, hrest, rfl⟩
      exact ⟨b, hb, rest, hrest, rfl⟩

/-! ## Kinds of errors -/

/-- Whatever error the outcome is, it is of this kind. -/
def FailsAs (kind : ε → Prop) (outcome : Except ε α) : Prop := ∀ e, outcome = .error e → kind e

section

variable {kind : ε → Prop}

theorem failsAs_ok (a : α) : FailsAs kind (.ok a : Except ε α) := fun e h => by cases h

theorem failsAs_error {e : ε} (h : kind e) : FailsAs kind (.error e : Except ε α) := by
  intro e' heq
  cases heq
  exact h

theorem FailsAs.bind_of_ok {first : Except ε α} {next : α → Except ε β}
    (hfirst : FailsAs kind first) (hnext : ∀ a, first = .ok a → FailsAs kind (next a)) :
    FailsAs kind (first >>= next) := by
  cases first with
  | error e => exact failsAs_error (hfirst e rfl)
  | ok a => exact hnext a rfl

theorem FailsAs.bind {first : Except ε α} {next : α → Except ε β} (hfirst : FailsAs kind first)
    (hnext : ∀ a, FailsAs kind (next a)) : FailsAs kind (first >>= next) :=
  hfirst.bind_of_ok fun a _ => hnext a

theorem FailsAs.ite {test : Prop} [Decidable test] {first other : Except ε α}
    (hfirst : FailsAs kind first) (hother : FailsAs kind other) :
    FailsAs kind (if test then first else other) := by
  split
  · exact hfirst
  · exact hother

theorem failsAs_mapError {kind : ε' → Prop} {f : ε → ε'} (h : ∀ e, kind (f e))
    (outcome : Except ε α) : FailsAs kind (outcome.mapError f) := by
  cases outcome with
  | error e => exact failsAs_error (h e)
  | ok a => exact failsAs_ok a

theorem failsAs_mapM {f : α → Except ε β} (h : ∀ a, FailsAs kind (f a)) (items : List α) :
    FailsAs kind (items.mapM f) := by
  induction items with
  | nil => exact failsAs_ok []
  | cons a items ih =>
    rw [List.mapM_cons]
    exact (h a).bind fun b => ih.bind fun rest => failsAs_ok (b :: rest)

end

/-! ## Lists related one by one -/

/-- Every member on the right is related to some member on the left. -/
theorem exists_of_mem_forall₂ {R : α → β → Prop} {xs : List α} {ys : List β}
    (h : List.Forall₂ R xs ys) {y : β} (hy : y ∈ ys) : ∃ x ∈ xs, R x y := by
  induction h with
  | nil => exact absurd hy List.not_mem_nil
  | @cons x _ _ _ hx _ ih =>
    rcases List.mem_cons.1 hy with rfl | hy
    · exact ⟨x, List.mem_cons_self, hx⟩
    · obtain ⟨x', hx', hrel⟩ := ih hy
      exact ⟨x', List.mem_cons_of_mem _ hx', hrel⟩

/-- What relates members carries over to whole lists. -/
theorem forall_mem_iff_of_forall₂ {R : α → β → Prop} {P : α → Prop} {Q : β → Prop}
    (hR : ∀ x y, R x y → (P x ↔ Q y)) {xs : List α} {ys : List β} (h : List.Forall₂ R xs ys) :
    (∀ x ∈ xs, P x) ↔ ∀ y ∈ ys, Q y := by
  induction h with
  | nil => exact iff_of_true (List.forall_mem_nil P) (List.forall_mem_nil Q)
  | cons hxy _ ih => rw [List.forall_mem_cons, List.forall_mem_cons, hR _ _ hxy, ih]

/-- Two relations that agree on the members on the left relate the same lists to them. -/
theorem forall₂_iff_of_forall_mem {R S : α → β → Prop} {xs : List α} {ys : List β}
    (h : ∀ x ∈ xs, ∀ y, R x y ↔ S x y) : List.Forall₂ R xs ys ↔ List.Forall₂ S xs ys := by
  induction xs generalizing ys with
  | nil => rw [List.forall₂_nil_left_iff, List.forall₂_nil_left_iff]
  | cons x xs ih =>
    rw [List.forall_mem_cons] at h
    simp only [List.forall₂_cons_left_iff, h.1, ih h.2]

/-- Where every member has something related to it, the whole list has. -/
theorem exists_forall₂ {R : α → β → Prop} {xs : List α} (h : ∀ x ∈ xs, ∃ y, R x y) :
    ∃ ys, List.Forall₂ R xs ys := by
  induction xs with
  | nil => exact ⟨[], .nil⟩
  | cons x xs ih =>
    rw [List.forall_mem_cons] at h
    obtain ⟨y, hy⟩ := h.1
    obtain ⟨ys, hys⟩ := ih h.2
    exact ⟨y :: ys, .cons hy hys⟩

/-- What is related to two lists in a row is two lists in a row, related to one each. -/
theorem exists_append_of_forall₂ {R : α → β → Prop} {items : List α} {front back : List β}
    (h : List.Forall₂ R items (front ++ back)) :
    ∃ front' back', items = front' ++ back' ∧ List.Forall₂ R front' front ∧
      List.Forall₂ R back' back :=
  ⟨items.take front.length, items.drop front.length, (List.take_append_drop _ _).symm,
    List.forall₂_take_append _ _ _ h, List.forall₂_drop_append _ _ _ h⟩

end GraphScribe
