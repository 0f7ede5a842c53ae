import GraphScribe.Proofs.Identifier.Fresh

/-!
# The search for a free name

A base is tested first, and then the base with the suffixes `_2`, `_3` and so on, until one of them is
free. Nothing in this search counts down, yet it ends: the candidates are all distinct, so some names
cannot take up one candidate more than there are of them. The search ends at the first candidate that
is free (`Search.ends_of_first`), and that is the name that is given out (`freeName_least_free`).
-/

namespace GraphScribe

/-! ## Candidates -/

/-- The names that are tested, in their order. -/
def candidate (base : Text) : Nat → Text
  | 0 => base
  | i + 1 => suffixed base (i + 2)

theorem suffixed_ne_base (base : Text) (n : Nat) : suffixed base n ≠ base := by
  intro h
  have longer := congrArg List.length h
  unfold suffixed at longer
  rw [List.length_append, List.length_cons] at longer
  omega

theorem candidate_injective (base : Text) : Function.Injective (candidate base) := by
  intro i j h
  cases i with
  | zero =>
    cases j with
    | zero => rfl
    | succ j => exact absurd h.symm (suffixed_ne_base base _)
  | succ i =>
    cases j with
    | zero => exact absurd h (suffixed_ne_base base _)
    | succ j =>
      have := suffixed_injective h
      omega

/-! ## The search -/

/-- Where a search stands: the name to be tested, and the suffix of the one behind it. -/
structure Search where
  name : Text
  next : Nat

/-- A search for a base ends after some tests with a name: at once where the name is free, and
otherwise as it ends from the next one on. -/
inductive Search.Ends (base : Text) (taken : List Text) : Search → Nat → Text → Prop
  | free {name : Text} {next : Nat} (h : name ∉ taken) : Ends base taken ⟨name, next⟩ 1 name
  | taken {name : Text} {next tests : Nat} {found : Text} (h : name ∈ taken)
      (later : Ends base taken ⟨suffixed base next, next + 1⟩ tests found) :
      Ends base taken ⟨name, next⟩ (tests + 1) found

section
variable {base : Text} {taken : List Text}

/-- A search ends in one way only. Induction on one of two. -/
theorem Search.Ends.unique {s : Search} {tests tests' : Nat} {found found' : Text}
    (h : Ends base taken s tests found) (h' : Ends base taken s tests' found') :
    tests = tests' ∧ found = found' := by
  induction h generalizing tests' found' with
  | free hfree =>
    cases h' with
    | free => exact ⟨rfl, rfl⟩
    | taken htaken => exact absurd htaken hfree
  | taken htaken _ ih =>
    cases h' with
    | free hfree => exact absurd htaken hfree
    | taken _ later =>
      obtain ⟨rfl, rfl⟩ := ih later
      exact ⟨rfl, rfl⟩

/-- The first candidate from some place on that is free ends the search there. Induction on the
distance to it. -/
theorem Search.ends_of_first {i : Nat} (hfree : candidate base i ∉ taken) (distance : Nat) :
    ∀ start, start + distance = i →
      (∀ j, start ≤ j → j < i → candidate base j ∈ taken) →
      Ends base taken ⟨candidate base start, start + 2⟩ (distance + 1) (candidate base i) := by
  induction distance with
  | zero =>
    rintro start rfl -
    exact .free hfree
  | succ distance ih =>
    intro start hstart hearlier
    refine .taken (hearlier start (Nat.le_refl start) (by omega)) ?_
    exact ih (start + 1) (by omega) fun j hj hlt => hearlier j (by omega) hlt

end

/-! ## The name that is given out -/

/-- The first suffix of a base that is free. -/
structure IsLeastSuffix (base : Text) (taken : List Text) (n : Nat) : Prop where
  two_le : 2 ≤ n
  free : suffixed base n ∉ taken
  earlier : ∀ k, 2 ≤ k → k < n → suffixed base k ∈ taken

/-- The name that is given out is the first candidate that is free, and comes no later than there are
names taken. -/
theorem exists_freeName_eq_candidate (base : Text) (taken : List Text) :
    ∃ i ≤ taken.toFinset.card, freeName base taken = candidate base i ∧ candidate base i ∉ taken ∧
      ∀ j < i, candidate base j ∈ taken := by
  have first : ∃ i, freeName base taken = candidate base i ∧ candidate base i ∉ taken ∧
      ∀ j < i, candidate base j ∈ taken := by
    rcases freeName_cases base taken with ⟨heq, hfree⟩ | ⟨n, hn, heq, hfree, hbase, hearlier⟩
    · exact ⟨0, heq, hfree, fun j hj => absurd hj (Nat.not_lt_zero j)⟩
    · obtain ⟨i, rfl⟩ : ∃ i, n = i + 2 := ⟨n - 2, by omega⟩
      refine ⟨i + 1, heq, hfree, fun j hj => ?_⟩
      cases j with
      | zero => exact hbase
      | succ j => exact hearlier (j + 2) (by omega) (by omega)
  obtain ⟨i, heq, hfree, hearlier⟩ := first
  obtain ⟨k, hk, hfreek⟩ := exists_not_mem_of_injective (candidate_injective base) taken
  refine ⟨i, ?_, heq, hfree, hearlier⟩
  -- everything before `i` is taken, so the free one is not before it
  by_contra hlate
  exact hfreek (hearlier k (by omega))

theorem freeName_of_not_mem {base : Text} {taken : List Text} (h : base ∉ taken) :
    freeName base taken = base := by
  rcases freeName_cases base taken with ⟨heq, -⟩ | ⟨n, -, -, -, hbase, -⟩
  · exact heq
  · exact absurd hbase h

theorem exists_leastSuffix_of_mem {base : Text} {taken : List Text} (h : base ∈ taken) :
    ∃ n, IsLeastSuffix base taken n ∧ n ≤ taken.toFinset.card + 1 ∧
      freeName base taken = suffixed base n := by
  obtain ⟨i, hi, heq, hfree, hearlier⟩ := exists_freeName_eq_candidate base taken
  cases i with
  | zero => exact absurd h hfree
  | succ i =>
    refine ⟨i + 2, ⟨by omega, hfree, fun k hk hlt => ?_⟩, by omega, heq⟩
    have tested := hearlier (k - 1) (by omega)
    obtain ⟨k, rfl⟩ : ∃ j, k = j + 2 := ⟨k - 2, by omega⟩
    exact tested

/-! ## Names for some steps -/

/-- A step gets the free name for its slug when those before it have got theirs. Induction on the
names; the ones that are taken grow by what the first step gets. -/
theorem getElem?_assignAfter (taken names : List Text) (i : Nat) :
    (assignAfter taken names)[i]? = names[i]?.map fun name =>
      freeName (slug name) (((assignAfter taken names).take i).reverse ++ taken) := by
  induction names generalizing taken i with
  | nil => rfl
  | cons name rest ih =>
    cases i with
    | zero => rfl
    | succ i =>
      unfold assignAfter
      dsimp only
      rw [List.getElem?_cons_succ, List.getElem?_cons_succ, ih, List.take_succ_cons,
        List.reverse_cons, List.append_assoc]
      rfl

theorem getElem?_assignNames (names : List Text) (i : Nat) :
    (assignNames names)[i]? = names[i]?.map fun name =>
      freeName (slug name) ((assignNames names).take i).reverse := by
  have given := getElem?_assignAfter [] names i
  simp only [List.append_nil] at given
  exact given

/-- The search for a name ends after at most one test more than there are names taken, at the name
that is given out. That one is free: it is the base if that is free, and otherwise the base with the
first suffix from 2 on that is free, at most one more than there are names taken. So the name of a step
is its slug, or its slug with a suffix that counts no more than the steps so far, and then the slug and
its smaller suffixes were given to earlier steps. -/
theorem freeName_least_free :
    (∀ (base : Text) (taken : List Text),
      (∃ tests, Search.Ends base taken ⟨base, 2⟩ tests (freeName base taken)) ∧
      (∀ tests found, Search.Ends base taken ⟨base, 2⟩ tests found →
        tests ≤ taken.toFinset.card + 1 ∧ found = freeName base taken) ∧
      freeName base taken ∉ taken ∧
      (base ∉ taken → freeName base taken = base) ∧
      (base ∈ taken → ∃ n, IsLeastSuffix base taken n ∧ n ≤ taken.toFinset.card + 1 ∧
        freeName base taken = suffixed base n)) ∧
    ∀ (names : List Text) (i : Nat) (name : Text), names[i]? = some name →
      ∃ given, (assignNames names)[i]? = some given ∧
        (given = slug name ∨ ∃ n, 2 ≤ n ∧ n ≤ i + 1 ∧ given = suffixed (slug name) n ∧
          slug name ∈ (assignNames names).take i ∧
          ∀ k, 2 ≤ k → k < n → suffixed (slug name) k ∈ (assignNames names).take i) := by
  refine ⟨fun base taken => ?_, fun names i name hname => ?_⟩
  · obtain ⟨i, hi, heq, hfree, hearlier⟩ := exists_freeName_eq_candidate base taken
    have ends : Search.Ends base taken ⟨base, 2⟩ (i + 1) (freeName base taken) := by
      rw [heq]
      exact Search.ends_of_first hfree i 0 (Nat.zero_add i) fun j _ hj => hearlier j hj
    refine ⟨⟨i + 1, ends⟩, fun tests found h => ?_, freeName_not_mem base taken,
      freeName_of_not_mem, exists_leastSuffix_of_mem⟩
    obtain ⟨rfl, rfl⟩ := h.unique ends
    exact ⟨by omega, rfl⟩
  · have given := getElem?_assignNames names i
    rw [hname, Option.map_some] at given
    refine ⟨_, given, ?_⟩
    have few : ((assignNames names).take i).reverse.toFinset.card ≤ i := by
      refine (List.toFinset_card_le _).trans ?_
      rw [List.length_reverse]
      exact List.length_take_le i _
    by_cases htaken : slug name ∈ ((assignNames names).take i).reverse
    · obtain ⟨n, least, hn, heq⟩ := exists_leastSuffix_of_mem htaken
      refine Or.inr ⟨n, least.two_le, by omega, heq, List.mem_reverse.1 htaken, fun k hk hlt => ?_⟩
      exact List.mem_reverse.1 (least.earlier k hk hlt)
    · exact Or.inl (freeName_of_not_mem htaken)

/-- A suffix that belongs to another base stands in the way all the same. -/
example : assignNames ["a".toList, "A 2".toList, "A".toList] = ["a".toList, "a_2".toList, "a_3".toList] := by
  decide +kernel

end GraphScribe
