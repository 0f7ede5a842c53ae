import GraphScribe.Identifier.Assign
import GraphScribe.Proofs.Text.Letter

/-!
# The shape of function names

Every name that is given to a function is an identifier: a small letter, then small letters, digits
and underscores (`isFunctionName_of_mem_assignNames`). The shape is followed through the steps that
make a slug: the words of a name are letters and digits only, and what is glued to them afterwards
(`node`, `node_`, `_node`, a numeric suffix) has the shape too.
-/

namespace GraphScribe

/-- A small letter. -/
def IsNameStart (c : Char) : Prop := 'a' ≤ c ∧ c ≤ 'z'

/-- A character of a function name after the first one. -/
def IsNameChar (c : Char) : Prop := IsNameStart c ∨ ('0' ≤ c ∧ c ≤ '9') ∨ c = '_'

instance (c : Char) : Decidable (IsNameStart c) := inferInstanceAs (Decidable (_ ∧ _))

instance (c : Char) : Decidable (IsNameChar c) := inferInstanceAs (Decidable (_ ∨ _))

/-- A small letter, then small letters, digits and underscores. -/
def IsFunctionName (t : Text) : Prop :=
  ∃ c rest, t = c :: rest ∧ IsNameStart c ∧ ∀ d ∈ rest, IsNameChar d

theorem IsFunctionName.append {t s : Text} (h : IsFunctionName t) (hs : ∀ c ∈ s, IsNameChar c) :
    IsFunctionName (t ++ s) := by
  obtain ⟨c, rest, rfl, hc, hrest⟩ := h
  exact ⟨c, rest ++ s, rfl, hc, List.forall_mem_append.2 ⟨hrest, hs⟩⟩

/-! ## Words -/

/-- A capital letter in lower case is the small letter 32 places on. -/
theorem toNat_toLower_of_isUpper {c : Char} (h : 'A' ≤ c ∧ c ≤ 'Z') :
    c.toLower.toNat = c.toNat + 32 := by
  have bounds : 65 ≤ c.toNat ∧ c.toNat ≤ 90 := toNat_between h
  have value : c.toLower.val = c.val + ('a'.val - 'A'.val) :=
    congrArg Char.val (dif_pos (show c.val ≥ 'A'.val ∧ c.val ≤ 'Z'.val from h))
  show c.toLower.val.toNat = _
  rw [value, UInt32.toNat_add]
  show (c.toNat + 32) % 2 ^ 32 = c.toNat + 32
  omega

/-- A letter or digit in lower case is a small letter or a digit. -/
theorem toLower_of_isAlphanum {c : Char} (h : c.isAlphanum = true) :
    IsNameStart c.toLower ∨ ('0' ≤ c.toLower ∧ c.toLower ≤ '9') := by
  have same : ¬ ('A' ≤ c ∧ c ≤ 'Z') → c.toLower = c := fun hupper => dif_neg hupper
  rcases (isAlphanum_iff c).1 h with (hupper | hlower) | hdigit
  · have shift := toNat_toLower_of_isUpper hupper
    have bounds : 65 ≤ c.toNat ∧ c.toNat ≤ 90 := toNat_between hupper
    refine Or.inl ⟨?_, ?_⟩
    · show 97 ≤ c.toLower.toNat
      omega
    · show c.toLower.toNat ≤ 122
      omega
  · have bounds : 97 ≤ c.toNat ∧ c.toNat ≤ 122 := toNat_between hlower
    have no_capital : ¬ ('A' ≤ c ∧ c ≤ 'Z') := by
      intro hupper
      have bounds' : 65 ≤ c.toNat ∧ c.toNat ≤ 90 := toNat_between hupper
      omega
    rw [same no_capital]
    exact Or.inl hlower
  · have bounds : 48 ≤ c.toNat ∧ c.toNat ≤ 57 := toNat_between hdigit
    have no_capital : ¬ ('A' ≤ c ∧ c ≤ 'Z') := by
      intro hupper
      have bounds' : 65 ≤ c.toNat ∧ c.toNat ≤ 90 := toNat_between hupper
      omega
    rw [same no_capital]
    exact Or.inr hdigit

theorem ne_nil_of_mem_words {t w : Text} (h : w ∈ words t) : w ≠ [] := by
  simpa using (List.mem_filter.1 h).2

theorem isAlphanum_of_mem_words {t w : Text} (h : w ∈ words t) : ∀ c ∈ w, c.isAlphanum = true := by
  intro c hc
  simpa using not_of_mem_splitWhere _ t w (List.mem_filter.1 h).1 c hc

/-- Words with underscores between them: nothing at all, or a text that starts with the first letter
or digit of the first word. -/
theorem joinWith_words_shape (ws : List Text) (nonempty : ∀ w ∈ ws, w ≠ [])
    (plain : ∀ w ∈ ws, ∀ c ∈ w, c.isAlphanum = true) :
    joinWith ['_'] ws = [] ∨ ∃ c rest, joinWith ['_'] ws = c :: rest ∧ c.isAlphanum = true ∧
      ∀ d ∈ rest, d.isAlphanum = true ∨ d = '_' := by
  cases ws with
  | nil => exact Or.inl rfl
  | cons w ws =>
    refine Or.inr ?_
    cases w with
    | nil => exact absurd rfl (nonempty [] List.mem_cons_self)
    | cons c w =>
      refine ⟨c, w ++ ws.flatMap fun next => ['_'] ++ next, rfl,
        plain _ List.mem_cons_self c List.mem_cons_self, ?_⟩
      intro d hd
      rcases List.mem_append.1 hd with hd | hd
      · exact Or.inl (plain _ List.mem_cons_self d (List.mem_cons_of_mem _ hd))
      · obtain ⟨next, hnext, hd⟩ := List.mem_flatMap.1 hd
        rcases List.mem_cons.1 hd with rfl | hd
        · exact Or.inr rfl
        · exact Or.inl (plain next (List.mem_cons_of_mem _ hnext) d hd)

/-- The words of a name in lower case: nothing at all, or a small letter or digit and then the
characters of a function name. -/
theorem snakeCase_shape (name : Text) :
    snakeCase name = [] ∨ ∃ c rest, snakeCase name = c :: rest ∧
      (IsNameStart c ∨ ('0' ≤ c ∧ c ≤ '9')) ∧ ∀ d ∈ rest, IsNameChar d := by
  unfold snakeCase
  rcases joinWith_words_shape (words (splitHumps (fold name))) (fun _ => ne_nil_of_mem_words)
    (fun _ => isAlphanum_of_mem_words) with hnil | ⟨c, rest, hcons, hc, hrest⟩
  · exact Or.inl (by rw [hnil, List.map_nil])
  · refine Or.inr ⟨c.toLower, rest.map Char.toLower, by rw [hcons, List.map_cons],
      toLower_of_isAlphanum hc, ?_⟩
    rw [List.forall_mem_map]
    intro d hd
    rcases hrest d hd with halnum | rfl
    · rcases toLower_of_isAlphanum halnum with hstart | hdigit
      · exact Or.inl hstart
      · exact Or.inr (Or.inl hdigit)
    · exact Or.inr (Or.inr rfl)

/-! ## Slugs -/

theorem isFunctionName_node : IsFunctionName "node".toList :=
  ⟨'n', ['o', 'd', 'e'], rfl, by decide, forall_mem_of_all (by decide)⟩

theorem isFunctionName_asIdentifier (name : Text) :
    IsFunctionName (asIdentifier (snakeCase name)) := by
  rcases snakeCase_shape name with hnil | ⟨c, rest, hcons, hc, hrest⟩
  · rw [hnil]
    exact isFunctionName_node
  · rw [hcons]
    unfold asIdentifier
    dsimp only
    split
    · next hdigit =>
      -- a digit cannot start the name, and stands behind `node_`
      refine IsFunctionName.append
        ⟨'n', ['o', 'd', 'e', '_'], rfl, by decide, forall_mem_of_all (by decide)⟩ ?_
      exact List.forall_mem_cons.2 ⟨Or.inr (Or.inl ((isDigit_iff c).1 hdigit)), hrest⟩
    · next hdigit =>
      rcases hc with hstart | hc
      · exact ⟨c, rest, rfl, hstart, hrest⟩
      · exact absurd ((isDigit_iff c).2 hc) hdigit

theorem isFunctionName_slug (name : Text) : IsFunctionName (slug name) := by
  unfold slug
  dsimp only
  split
  · exact (isFunctionName_asIdentifier name).append (forall_mem_of_all (by decide))
  · exact isFunctionName_asIdentifier name

/-! ## Suffixes -/

theorem mem_decimal {n : Nat} {c : Char} (h : c ∈ decimal n) : '0' ≤ c ∧ c ≤ '9' := by
  unfold decimal at h
  rw [← isDigit_iff]
  exact Nat.isDigit_of_mem_toDigits (by decide) (by decide) (Nat.toList_repr ▸ h)

theorem isFunctionName_suffixed {base : Text} (h : IsFunctionName base) (n : Nat) :
    IsFunctionName (suffixed base n) := by
  refine h.append ?_
  rw [List.forall_mem_cons]
  exact ⟨Or.inr (Or.inr rfl), fun c hc => Or.inr (Or.inl (mem_decimal hc))⟩

theorem isFunctionName_freeSuffixed {base : Text} (h : IsFunctionName base) (taken : List Text)
    (fuel n : Nat) : IsFunctionName (freeSuffixed base taken fuel n) := by
  induction fuel generalizing n with
  | zero => exact isFunctionName_suffixed h n
  | succ fuel ih =>
    unfold freeSuffixed
    split
    · exact ih (n + 1)
    · exact isFunctionName_suffixed h n

theorem isFunctionName_freeName {base : Text} (h : IsFunctionName base) (taken : List Text) :
    IsFunctionName (freeName base taken) := by
  unfold freeName
  split
  · exact isFunctionName_freeSuffixed h taken _ 2
  · exact h

/-- Every name that is given out was the free one for some slug. -/
theorem exists_freeName_of_mem_assignAfter {taken names : List Text} {f : Text}
    (h : f ∈ assignAfter taken names) : ∃ name taken', f = freeName (slug name) taken' := by
  induction names generalizing taken with
  | nil => exact absurd h List.not_mem_nil
  | cons name rest ih =>
    unfold assignAfter at h
    rcases List.mem_cons.1 h with rfl | h
    · exact ⟨name, taken, rfl⟩
    · exact ih h

/-- Every name given to a function is an identifier. -/
theorem isFunctionName_of_mem_assignNames {names : List Text} {f : Text}
    (h : f ∈ assignNames names) : IsFunctionName f := by
  obtain ⟨name, taken, rfl⟩ := exists_freeName_of_mem_assignAfter h
  exact isFunctionName_freeName (isFunctionName_slug name) taken

end GraphScribe
