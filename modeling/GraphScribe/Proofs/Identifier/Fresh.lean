import GraphScribe.Identifier.Assign
import Mathlib.Data.Finset.Card
import Mathlib.Data.Finset.Range
import Mathlib.Tactic.ByContra

/-!
# Function names are distinct

The search for a free name tries one suffix more than there are names taken, so it always ends at a
free one (`freeName_not_mem`), and no free one comes before it (`freeName_cases`). A name that is
given out is taken from then on, so no two functions of a program share one (`nodup_assignNames`).
-/

namespace GraphScribe

/-! ## Suffixes -/

theorem decimal_injective {m n : Nat} (h : decimal m = decimal n) : m = n := by
  have digits : ∀ k, Nat.ofDigitChars 10 (decimal k) 0 = k := by
    intro k
    show Nat.ofDigitChars 10 (Nat.repr k).toList 0 = k
    rw [Nat.toList_repr, Nat.ofDigitChars_ten_toDigits]
  rw [← digits m, h, digits]

theorem suffixed_injective {base : Text} {m n : Nat} (h : suffixed base m = suffixed base n) :
    m = n :=
  decimal_injective (List.cons.inj (List.append_cancel_left h)).2

/-- The search stops at some suffix, with every earlier one taken; where it stops before its fuel is
used up, that suffix is free. Induction on the fuel. -/
theorem freeSuffixed_cases (base : Text) (taken : List Text) (fuel n : Nat) :
    ∃ m, n ≤ m ∧ m ≤ n + fuel ∧ freeSuffixed base taken fuel n = suffixed base m ∧
      (∀ k, n ≤ k → k < m → suffixed base k ∈ taken) ∧
      (m < n + fuel → suffixed base m ∉ taken) := by
  induction fuel generalizing n with
  | zero =>
    refine ⟨n, Nat.le_refl n, Nat.le_refl n, rfl, ?_, ?_⟩
    · intro k hk hlt
      omega
    · intro hlt
      omega
  | succ fuel ih =>
    unfold freeSuffixed
    by_cases htaken : taken.contains (suffixed base n) = true
    · rw [if_pos htaken]
      obtain ⟨m, hlo, hhi, heq, hearlier, hfree⟩ := ih (n + 1)
      refine ⟨m, by omega, by omega, heq, ?_, fun hlt => hfree (by omega)⟩
      intro k hk hlt
      rcases Nat.eq_or_lt_of_le hk with rfl | hk
      · exact List.contains_iff_mem.1 htaken
      · exact hearlier k hk hlt
    · rw [if_neg htaken]
      refine ⟨n, Nat.le_refl n, by omega, rfl, ?_, ?_⟩
      · intro k hk hlt
        omega
      · exact fun _ hmem => htaken (List.contains_iff_mem.2 hmem)

/-- Some names cannot take up one term of a sequence without repetition more than there are of them. -/
theorem exists_not_mem_of_injective {f : Nat → Text} (hf : Function.Injective f) (taken : List Text) :
    ∃ i ≤ taken.toFinset.card, f i ∉ taken := by
  by_contra hnone
  push Not at hnone
  have subset : (Finset.range (taken.toFinset.card + 1)).image f ⊆ taken.toFinset := by
    intro name hname
    obtain ⟨i, hi, rfl⟩ := Finset.mem_image.1 hname
    exact List.mem_toFinset.2 (hnone i (Nat.lt_succ_iff.1 (Finset.mem_range.1 hi)))
  have few := Finset.card_le_card subset
  rw [Finset.card_image_of_injective _ hf, Finset.card_range] at few
  omega

theorem exists_suffixed_not_mem (base : Text) (taken : List Text) (n : Nat) :
    ∃ k, n ≤ k ∧ k ≤ n + taken.length ∧ suffixed base k ∉ taken := by
  have distinct : Function.Injective fun i => suffixed base (n + i) := fun i j h =>
    Nat.add_left_cancel (suffixed_injective h)
  obtain ⟨i, hi, hfree⟩ := exists_not_mem_of_injective distinct taken
  have := List.toFinset_card_le taken
  exact ⟨n + i, by omega, by omega, hfree⟩

/-! ## Free names -/

/-- The name that is given out: the base where it is free, and otherwise the base with the first
suffix from 2 on that is free. -/
theorem freeName_cases (base : Text) (taken : List Text) :
    (freeName base taken = base ∧ base ∉ taken) ∨
      ∃ m, 2 ≤ m ∧ freeName base taken = suffixed base m ∧ suffixed base m ∉ taken ∧
        base ∈ taken ∧ ∀ k, 2 ≤ k → k < m → suffixed base k ∈ taken := by
  unfold freeName
  by_cases htaken : taken.contains base = true
  · rw [if_pos htaken]
    obtain ⟨m, hlo, hhi, heq, hearlier, hfree⟩ := freeSuffixed_cases base taken taken.length 2
    refine Or.inr ⟨m, hlo, heq, ?_, List.contains_iff_mem.1 htaken, hearlier⟩
    -- where fuel is left over, the search has ended at a free name
    rcases Nat.lt_or_ge m (2 + taken.length) with hlt | hge
    · exact hfree hlt
    · -- the fuel is used up: everything before `m` is taken, so `m` is the free one
      obtain ⟨k, hk, hkm, hfreek⟩ := exists_suffixed_not_mem base taken 2
      rcases Nat.lt_or_ge k m with hbefore | hafter
      · exact absurd (hearlier k hk hbefore) hfreek
      · have same : k = m := by omega
        exact same ▸ hfreek
  · rw [if_neg htaken]
    exact Or.inl ⟨rfl, fun hmem => htaken (List.contains_iff_mem.2 hmem)⟩

theorem freeName_not_mem (base : Text) (taken : List Text) : freeName base taken ∉ taken := by
  rcases freeName_cases base taken with ⟨heq, hfree⟩ | ⟨m, -, heq, hfree, -⟩
  · rwa [heq]
  · rwa [heq]

/-! ## Names for some steps -/

theorem not_mem_of_mem_assignAfter {taken names : List Text} {f : Text}
    (h : f ∈ assignAfter taken names) : f ∉ taken := by
  induction names generalizing taken with
  | nil => exact absurd h List.not_mem_nil
  | cons name rest ih =>
    unfold assignAfter at h
    rcases List.mem_cons.1 h with rfl | h
    · exact freeName_not_mem _ taken
    · exact fun hmem => ih h (List.mem_cons_of_mem _ hmem)

theorem nodup_assignAfter (taken names : List Text) : (assignAfter taken names).Nodup := by
  induction names generalizing taken with
  | nil => exact List.nodup_nil
  | cons name rest ih =>
    unfold assignAfter
    dsimp only
    rw [List.nodup_cons]
    exact ⟨fun h => not_mem_of_mem_assignAfter h List.mem_cons_self, ih _⟩

/-- No two functions get the same name. -/
theorem nodup_assignNames (names : List Text) : (assignNames names).Nodup :=
  nodup_assignAfter [] names

theorem length_assignNames (names : List Text) : (assignNames names).length = names.length :=
  length_assignAfter [] names

end GraphScribe
