import GraphScribe.Proofs.Outcome

/-!
# Checks in a row

A program that looks at some things one after the other, and stops at the first one that is broken,
*goes through* the list of them: it has a fault exactly if one of them is broken, and the fault tells of
the first one (`GoesThrough`). One program after another goes through both lists, and so does a program
for each of some items (`GoesThrough.bind`, `GoesThrough.mapM`).
-/

namespace GraphScribe

variable {ε ε' κ α β : Type}

/-! ## The first one -/

/-- The member of a list with a property before which no member has it. -/
def IsFirst (p : κ → Prop) (xs : List κ) (x : κ) : Prop :=
  ∃ before after, xs = before ++ x :: after ∧ p x ∧ ∀ y ∈ before, ¬ p y

section

variable {p : κ → Prop} {xs ys : List κ} {x : κ}

theorem IsFirst.mem (h : IsFirst p xs x) : x ∈ xs := by
  obtain ⟨before, after, rfl, -, -⟩ := h
  exact List.mem_append_right _ List.mem_cons_self

theorem IsFirst.holds (h : IsFirst p xs x) : p x := by
  obtain ⟨-, -, -, hx, -⟩ := h
  exact hx

theorem isFirst_singleton (h : p x) : IsFirst p [x] x :=
  ⟨[], [], rfl, h, fun _ hy => absurd hy List.not_mem_nil⟩

theorem IsFirst.append_left (h : IsFirst p xs x) (ys : List κ) : IsFirst p (xs ++ ys) x := by
  obtain ⟨before, after, rfl, hx, hbefore⟩ := h
  exact ⟨before, after ++ ys, by rw [List.append_assoc, List.cons_append], hx, hbefore⟩

theorem IsFirst.append_right (hxs : ∀ y ∈ xs, ¬ p y) (h : IsFirst p ys x) :
    IsFirst p (xs ++ ys) x := by
  obtain ⟨before, after, rfl, hx, hbefore⟩ := h
  refine ⟨xs ++ before, after, by rw [List.append_assoc], hx, ?_⟩
  rw [List.forall_mem_append]
  exact ⟨hxs, hbefore⟩

/-- The first member is in the front, or nothing in the front has the property. -/
theorem IsFirst.of_append (h : IsFirst p (xs ++ ys) x) : x ∈ xs ∨ ∀ y ∈ xs, ¬ p y := by
  obtain ⟨before, after, heq, -, hbefore⟩ := h
  rcases List.append_eq_append_iff.1 heq with ⟨more, rfl, -⟩ | ⟨more, rfl, htail⟩
  · exact Or.inr fun y hy => hbefore y (List.mem_append_left _ hy)
  · cases more with
    | nil => exact Or.inr fun y hy => hbefore y (List.append_nil before ▸ hy)
    | cons z more =>
      have here : x = z := (List.cons.inj htail).1
      exact Or.inl (List.mem_append_right _ (here ▸ List.mem_cons_self))

/-- There is only one first member. -/
theorem IsFirst.unique {y : κ} (h : IsFirst p xs x) (h' : IsFirst p xs y) : x = y := by
  obtain ⟨before, after, rfl, hx, hbefore⟩ := h
  obtain ⟨before', after', heq, hy, hbefore'⟩ := h'
  rcases List.append_eq_append_iff.1 heq with ⟨more, rfl, htail⟩ | ⟨more, rfl, htail⟩
  · cases more with
    | nil => exact (List.cons.inj htail).1
    | cons z more =>
      have found : x = z := (List.cons.inj htail).1
      exact absurd (found ▸ hx) (hbefore' z (List.mem_append_right _ List.mem_cons_self))
  · cases more with
    | nil => exact (List.cons.inj htail).1.symm
    | cons z more =>
      have found : y = z := (List.cons.inj htail).1
      exact absurd (found ▸ hy) (hbefore z (List.mem_append_right _ List.mem_cons_self))

end

/-! ## Faults -/

/-- The fault that an outcome is, if it is one. -/
def faultOf : Except ε α → Option ε
  | .error e => some e
  | .ok _ => none

theorem faultOf_eq_some_iff {outcome : Except ε α} {e : ε} :
    faultOf outcome = some e ↔ outcome = .error e := by
  cases outcome with
  | error e' => simp [faultOf]
  | ok a => simp [faultOf]

theorem faultOf_eq_none_iff {outcome : Except ε α} :
    faultOf outcome = none ↔ ∃ a, outcome = .ok a := by
  cases outcome with
  | error e => simp [faultOf]
  | ok a => simp [faultOf]

/-- There is a fault exactly if some check is broken, and it tells of the first broken one. -/
structure GoesThrough (broken : κ → Prop) (tells : κ → ε → Prop) (checks : List κ)
    (fault : Option ε) : Prop where
  passed : fault = none → ∀ c ∈ checks, ¬ broken c
  found : ∀ e, fault = some e → ∃ c, IsFirst broken checks c ∧ tells c e

section

variable {broken : κ → Prop} {tells : κ → ε → Prop} {checks checks' : List κ} {fault fault' : Option ε}

theorem goesThrough_nil : GoesThrough broken tells [] none where
  passed _ c hc := absurd hc List.not_mem_nil
  found e h := by cases h

/-- A broken check, whatever comes after it. -/
theorem goesThrough_head {c : κ} {e : ε} (hc : broken c) (he : tells c e) (checks : List κ) :
    GoesThrough broken tells (c :: checks) (some e) where
  passed h := by cases h
  found e' h := by
    cases h
    exact ⟨c, (isFirst_singleton hc).append_left checks, he⟩

/-- One more check that is not broken. -/
theorem GoesThrough.skip {c : κ} (hc : ¬ broken c) (h : GoesThrough broken tells checks fault) :
    GoesThrough broken tells (c :: checks) fault where
  passed hnone := by
    rw [List.forall_mem_cons]
    exact ⟨hc, h.passed hnone⟩
  found e he := by
    obtain ⟨c', first, hc'⟩ := h.found e he
    have passed : ∀ y ∈ [c], ¬ broken y := List.forall_mem_singleton.2 hc
    exact ⟨c', first.append_right passed, hc'⟩

/-- A single check. -/
theorem goesThrough_singleton {c : κ} (hnone : fault = none → ¬ broken c)
    (hsome : ∀ e, fault = some e → broken c ∧ tells c e) : GoesThrough broken tells [c] fault := by
  cases fault with
  | none => exact goesThrough_nil.skip (hnone rfl)
  | some e => exact goesThrough_head (hsome e rfl).1 (hsome e rfl).2 []

/-- Some checks, and where none of them is broken, some more. -/
theorem GoesThrough.or (h : GoesThrough broken tells checks fault)
    (h' : fault = none → GoesThrough broken tells checks' fault') :
    GoesThrough broken tells (checks ++ checks') (fault.or fault') := by
  cases fault with
  | none =>
    have passed := h.passed rfl
    rw [Option.none_or]
    refine ⟨fun hnone => ?_, fun e he => ?_⟩
    · rw [List.forall_mem_append]
      exact ⟨passed, (h' rfl).passed hnone⟩
    · obtain ⟨c, first, hc⟩ := (h' rfl).found e he
      exact ⟨c, first.append_right passed, hc⟩
  | some found =>
    refine ⟨fun hnone => (by cases hnone), fun e he => ?_⟩
    obtain ⟨c, first, hc⟩ := h.found e he
    exact ⟨c, first.append_left checks', hc⟩

/-- A test for one check, and where it is not broken, some more. -/
theorem GoesThrough.ite {c : κ} {e : ε} {test : Prop} [Decidable test] (hc : test ↔ broken c)
    (he : tells c e) (h : GoesThrough broken tells checks fault) :
    GoesThrough broken tells (c :: checks) (if test then some e else fault) := by
  by_cases htest : test
  · rw [if_pos htest]
    exact goesThrough_head (hc.1 htest) he checks
  · rw [if_neg htest]
    exact h.skip (mt hc.2 htest)

/-- The same fault told of in another way. -/
theorem GoesThrough.map {tells' : κ → ε' → Prop} {f : ε → ε'}
    (h : GoesThrough broken tells checks fault) (hf : ∀ c e, tells c e → tells' c (f e)) :
    GoesThrough broken tells' checks (fault.map f) where
  passed hnone := h.passed (Option.map_eq_none_iff.1 hnone)
  found e' he' := by
    obtain ⟨e, he, rfl⟩ := Option.map_eq_some_iff.1 he'
    obtain ⟨c, first, hc⟩ := h.found e he
    exact ⟨c, first, hf c e hc⟩

/-- There is a fault exactly if some check is broken. -/
theorem GoesThrough.exists_iff (h : GoesThrough broken tells checks fault) :
    (∃ e, fault = some e) ↔ ∃ c ∈ checks, broken c := by
  constructor
  · rintro ⟨e, he⟩
    obtain ⟨c, first, -⟩ := h.found e he
    exact ⟨c, first.mem, first.holds⟩
  · rintro ⟨c, hc, hbroken⟩
    rw [← Option.ne_none_iff_exists']
    exact fun hnone => h.passed hnone c hc hbroken

end

/-! ## Programs -/

section

variable {broken : κ → Prop} {tells : κ → ε → Prop} {checks checks' : List κ}

theorem goesThrough_ok (a : α) : GoesThrough broken tells [] (faultOf (.ok a : Except ε α)) :=
  goesThrough_nil

/-- A program for a single check. -/
theorem goesThrough_of_ok_iff {outcome : Except ε α} {c : κ}
    (hok : (∃ a, outcome = .ok a) ↔ ¬ broken c) (hfails : FailsAs (tells c) outcome) :
    GoesThrough broken tells [c] (faultOf outcome) := by
  refine goesThrough_singleton (fun h => hok.1 (faultOf_eq_none_iff.1 h)) fun e h => ?_
  have failed := faultOf_eq_some_iff.1 h
  refine ⟨?_, hfails e failed⟩
  by_contra hsound
  obtain ⟨a, ha⟩ := hok.2 hsound
  rw [failed] at ha
  cases ha

theorem GoesThrough.bind {first : Except ε α} {next : α → Except ε β}
    (h : GoesThrough broken tells checks (faultOf first))
    (h' : ∀ a, first = .ok a → GoesThrough broken tells checks' (faultOf (next a))) :
    GoesThrough broken tells (checks ++ checks') (faultOf (first >>= next)) := by
  cases first with
  | error e =>
    show GoesThrough broken tells (checks ++ checks') ((some e).or none)
    exact h.or fun hnone => by cases hnone
  | ok a =>
    show GoesThrough broken tells (checks ++ checks') (none.or (faultOf (next a)))
    exact h.or fun _ => h' a rfl

theorem findSome?_cons_eq_or (f : α → Option ε) (a : α) (items : List α) :
    (a :: items).findSome? f = (f a).or (items.findSome? f) := by
  rw [List.findSome?_cons]
  cases f a <;> rfl

theorem findSome?_pair (f : α → Option ε) (a b : α) :
    [a, b].findSome? f = (f a).or (f b) := by
  rw [findSome?_cons_eq_or, findSome?_cons_eq_or, List.findSome?_nil, Option.or_none]

theorem findSome?_flatMap (f : β → Option ε) (parts : α → List β) (items : List α) :
    (items.flatMap parts).findSome? f = items.findSome? fun a => (parts a).findSome? f := by
  induction items with
  | nil => rfl
  | cons a items ih => rw [List.flatMap_cons, List.findSome?_append, findSome?_cons_eq_or, ih]

/-- The first fault among those of some items. Induction on the items. -/
theorem GoesThrough.findSome {f : α → Option ε} {checksOf : α → List κ} {items : List α}
    (h : ∀ a ∈ items, GoesThrough broken tells (checksOf a) (f a)) :
    GoesThrough broken tells (items.flatMap checksOf) (items.findSome? f) := by
  induction items with
  | nil => exact goesThrough_nil
  | cons a items ih =>
    rw [List.forall_mem_cons] at h
    rw [findSome?_cons_eq_or, List.flatMap_cons]
    exact h.1.or fun _ => ih h.2

theorem faultOf_mapM (f : α → Except ε β) (items : List α) :
    faultOf (items.mapM f) = items.findSome? fun a => faultOf (f a) := by
  induction items with
  | nil => rfl
  | cons a items ih =>
    rw [List.mapM_cons, findSome?_cons_eq_or, ← ih]
    cases f a with
    | error e => rfl
    | ok b => cases items.mapM f <;> rfl

theorem findSome?_eq_some_iff_getElem? {f : α → Option ε} {items : List α} {e : ε} :
    items.findSome? f = some e ↔ ∃ (i : Nat) (a : α), items[i]? = some a ∧ f a = some e ∧
      ∀ j < i, ∀ b, items[j]? = some b → f b = none := by
  rw [List.findSome?_eq_some_iff]
  constructor
  · rintro ⟨before, a, after, rfl, ha, hbefore⟩
    refine ⟨before.length, a, by simp, ha, fun j hj b hb => ?_⟩
    rw [List.getElem?_append_left hj] at hb
    exact hbefore b (List.mem_of_getElem? hb)
  · rintro ⟨i, a, ha, hfault, hbefore⟩
    obtain ⟨hi, rfl⟩ := List.getElem?_eq_some_iff.1 ha
    refine ⟨items.take i, items[i], items.drop (i + 1), ?_, hfault, fun b hb => ?_⟩
    · rw [List.getElem_cons_drop, List.take_append_drop]
    · obtain ⟨j, hj⟩ := List.mem_iff_getElem?.1 hb
      rw [List.getElem?_take, Option.ite_none_right_eq_some] at hj
      exact hbefore j hj.1 b hj.2

/-- Items with their indices end in an error exactly if one of them does and those before it give
results. -/
theorem mapM_zipIdx_eq_error_iff {f : Nat → α → Except ε β} {items : List α} {e : ε} :
    items.zipIdx.mapM (fun (a, i) => f i a) = .error e ↔
      ∃ i a, items[i]? = some a ∧ f i a = .error e ∧
        ∀ j < i, ∀ b, items[j]? = some b → ∃ c, f j b = .ok c := by
  rw [← faultOf_eq_some_iff, faultOf_mapM, findSome?_eq_some_iff_getElem?]
  simp only [List.getElem?_zipIdx, Option.map_eq_some_iff, Nat.zero_add]
  constructor
  · rintro ⟨i, _, ⟨a, ha, rfl⟩, hfault, before⟩
    refine ⟨i, a, ha, faultOf_eq_some_iff.1 hfault, fun j hj b hb => ?_⟩
    exact faultOf_eq_none_iff.1 (before j hj (b, j) ⟨b, hb, rfl⟩)
  · rintro ⟨i, a, ha, hfault, before⟩
    refine ⟨i, (a, i), ⟨a, ha, rfl⟩, faultOf_eq_some_iff.2 hfault, ?_⟩
    rintro j hj _ ⟨b, hb, rfl⟩
    exact faultOf_eq_none_iff.2 (before j hj b hb)

/-- The same where what is done with an item depends on its index, and the checks on that alone. -/
theorem GoesThrough.findSome_zipIdx {f : α × Nat → Option ε} {checksOf : Nat → List κ}
    {items : List α}
    (h : ∀ a i, items[i]? = some a → GoesThrough broken tells (checksOf i) (f (a, i))) :
    GoesThrough broken tells ((List.range items.length).flatMap checksOf)
      (items.zipIdx.findSome? f) := by
  have indices : (List.range items.length).flatMap checksOf
      = items.zipIdx.flatMap fun item => checksOf item.2 := by
    rw [List.range_eq_range', ← List.zipIdx_map_snd 0 items, List.flatMap_map]
  rw [indices]
  exact .findSome fun (a, i) ha => h a i (List.mk_mem_zipIdx_iff_getElem?.1 ha)

/-- A program for each of some items. -/
theorem GoesThrough.mapM {f : α → Except ε β} {checksOf : α → List κ} {items : List α}
    (h : ∀ a ∈ items, GoesThrough broken tells (checksOf a) (faultOf (f a))) :
    GoesThrough broken tells (items.flatMap checksOf) (faultOf (items.mapM f)) := by
  rw [faultOf_mapM]
  exact .findSome h

theorem faultOf_ite {test : Prop} [Decidable test] (e : ε) (rest : Except ε α) :
    faultOf (if test then .error e else rest) = if test then some e else faultOf rest :=
  apply_ite faultOf ..

theorem faultOf_mapError (f : ε → ε') (outcome : Except ε α) :
    faultOf (outcome.mapError f) = (faultOf outcome).map f := by
  cases outcome <;> rfl

end

end GraphScribe
