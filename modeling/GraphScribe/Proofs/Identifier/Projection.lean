import GraphScribe.Proofs.Identifier.Spelling

/-!
# Slugs of slugs

Making a slug of a slug changes nothing, and the same holds of every name that is given to a function,
with a numeric suffix or without one (`slug_projects`). What all these names have in common is said of
the text alone: `IsSlug` is exactly what being one's own slug means (`slug_eq_self_iff`).

## The architecture

* **`IsWorded`** — words of small letters and digits with single underscores between them. Gluing two
  such texts together with an underscore gives another one (`IsWorded.append`).
* **`IsWorded.snakeCase_eq`** — no step on the way to a slug finds anything to do in such a text.
* **`isSlug_slug`**, **`isSlug_suffixed`** — everything that is glued to a name (`node`, `node_`, `_node`,
  a number) keeps it worded, and no reserved name comes of it.
* **`assignAfter_of_slugs`** — distinct slugs are given out as they are.
-/

namespace GraphScribe

/-! ## Worded texts -/

/-- A word of a slug: small letters and digits, at least one. -/
structure IsWord (w : Text) : Prop where
  solid : w ≠ []
  plain : ∀ c ∈ w, IsNameStart c ∨ ('0' ≤ c ∧ c ≤ '9')

/-- Words with single underscores between them. -/
inductive IsWorded : Text → Prop
  | word {w : Text} (h : IsWord w) : IsWorded w
  | more {w rest : Text} (h : IsWord w) (hrest : IsWorded rest) : IsWorded (w ++ '_' :: rest)

/-- A text that can be a slug: the name of a function, made up of words, and not reserved. -/
structure IsSlug (t : Text) : Prop where
  name : IsFunctionName t
  worded : IsWorded t
  free : t ∉ reservedNames.map String.toList

theorem isWord_node : IsWord "node".toList where
  solid := by decide
  plain := forall_mem_of_all (by decide)

theorem isWord_decimal (n : Nat) : IsWord (decimal n) where
  solid := decimal_ne_nil n
  plain _ hc := Or.inr (mem_decimal hc)

theorem IsWorded.ne_nil {t : Text} (h : IsWorded t) : t ≠ [] := by
  cases h with
  | word hw => exact hw.solid
  | more hw _ => exact List.append_ne_nil_of_left_ne_nil hw.solid _

theorem IsWorded.append {t s : Text} (h : IsWorded t) (hs : IsWorded s) : IsWorded (t ++ '_' :: s) := by
  induction h with
  | word hw => exact .more hw hs
  | more hw _ ih =>
    rw [List.append_assoc, List.cons_append]
    exact .more hw ih

theorem IsWorded.isNameChar {t : Text} (h : IsWorded t) : ∀ c ∈ t, IsNameChar c := by
  have word : ∀ {w : Text}, IsWord w → ∀ c ∈ w, IsNameChar c := by
    intro w hw c hc
    rcases hw.plain c hc with hstart | hdigit
    · exact Or.inl hstart
    · exact Or.inr (Or.inl hdigit)
  induction h with
  | word hw => exact word hw
  | more hw _ ih =>
    rw [List.forall_mem_append, List.forall_mem_cons]
    exact ⟨word hw, Or.inr (Or.inr rfl), ih⟩

/-! ## What the steps of a slug find in a worded text -/

theorem toNat_lt_of_isNameChar {c : Char} (h : IsNameChar c) : c.toNat < 0x80 := by
  rcases h with h | h | rfl
  · exact Nat.lt_of_le_of_lt (toNat_between h).2 (by decide)
  · exact Nat.lt_of_le_of_lt (toNat_between h).2 (by decide)
  · decide

theorem not_isUpper_of_isNameChar {c : Char} (h : IsNameChar c) : c.isUpper = false := by
  rw [← Bool.not_eq_true, isUpper_iff]
  intro hupper
  have capital : 65 ≤ c.toNat ∧ c.toNat ≤ 90 := toNat_between hupper
  rcases h with h | h | rfl
  · have small : 97 ≤ c.toNat ∧ c.toNat ≤ 122 := toNat_between h
    omega
  · have digit : 48 ≤ c.toNat ∧ c.toNat ≤ 57 := toNat_between h
    omega
  · exact absurd hupper (by decide)

theorem toLower_of_isNameChar {c : Char} (h : IsNameChar c) : c.toLower = c := by
  have low : ¬ ('A' ≤ c ∧ c ≤ 'Z') := by
    rw [← isUpper_iff, not_isUpper_of_isNameChar h]
    exact Bool.false_ne_true
  exact dif_neg low

theorem isAlphanum_of_plain {c : Char} (h : IsNameStart c ∨ ('0' ≤ c ∧ c ≤ '9')) :
    c.isAlphanum = true :=
  (isAlphanum_iff c).2 (h.imp_left Or.inr)

/-- Without capital letters there are no humps. -/
theorem splitHumps_of_not_isUpper {t : Text} (h : ∀ c ∈ t, c.isUpper = false) : splitHumps t = t := by
  fun_induction splitHumps t with
  | case1 c d rest hump ih =>
    unfold isHump at hump
    rw [h d (by simp)] at hump
    exact Bool.noConfusion hump
  | case2 c d rest _ ih => rw [ih fun e he => h e (List.mem_cons_of_mem _ he)]
  | case3 => rfl

theorem words_of_isWord {w : Text} (h : IsWord w) : words w = [w] := by
  have whole : splitWhere (fun c => !c.isAlphanum) w = [w] := by
    apply splitWhere_eq_singleton
    intro c hc
    rw [isAlphanum_of_plain (h.plain c hc)]
    rfl
  unfold words
  rw [whole, List.filter_cons_of_pos (by simpa using h.solid)]
  rfl

/-- An underscore ends a word. Induction on the word; its last character is the one that comes to
stand before the underscore. -/
theorem words_append_underscore {w : Text} (h : IsWord w) (rest : Text) :
    words (w ++ '_' :: rest) = w :: words rest := by
  obtain ⟨solid, plain⟩ := h
  induction w with
  | nil => exact absurd rfl solid
  | cons c w ih =>
    rw [List.forall_mem_cons] at plain
    have hc := isAlphanum_of_plain plain.1
    cases w with
    | nil => exact words_cons_stop hc (by decide) rest
    | cons d w =>
      have hd := isAlphanum_of_plain (plain.2 d List.mem_cons_self)
      have later := ih (List.cons_ne_nil d w) plain.2
      rw [List.cons_append] at later
      rw [List.cons_append, List.cons_append, words_cons_cons hc hd, later]
      rfl

theorem IsWorded.joinWith_words {t : Text} (h : IsWorded t) : joinWith ['_'] (words t) = t := by
  induction h with
  | word hw =>
    rw [words_of_isWord hw]
    exact List.append_nil _
  | @more w rest hw hrest ih =>
    have some : words rest ≠ [] := by
      intro hnil
      rw [hnil] at ih
      exact hrest.ne_nil ih.symm
    rw [words_append_underscore hw, joinWith_cons_of_ne_nil _ _ some, ih, List.append_assoc]
    rfl

theorem IsWorded.snakeCase_eq {t : Text} (h : IsWorded t) : snakeCase t = t := by
  have plain := h.isNameChar
  have folded : fold t = t := fold_eq_self t fun c hc => toNat_lt_of_isNameChar (plain c hc)
  have split : splitHumps t = t :=
    splitHumps_of_not_isUpper fun c hc => not_isUpper_of_isNameChar (plain c hc)
  unfold snakeCase
  rw [folded, split, h.joinWith_words]
  conv_rhs => rw [← List.map_id t]
  exact List.map_congr_left fun c hc => toLower_of_isNameChar (plain c hc)

theorem IsFunctionName.asIdentifier_eq {t : Text} (h : IsFunctionName t) : asIdentifier t = t := by
  obtain ⟨c, rest, rfl, hc, -⟩ := h
  have letter : c.isDigit = false := by
    rw [← Bool.not_eq_true, isDigit_iff]
    intro hdigit
    have small : 97 ≤ c.toNat ∧ c.toNat ≤ 122 := toNat_between hc
    have digit : 48 ≤ c.toNat ∧ c.toNat ≤ 57 := toNat_between hdigit
    omega
  unfold asIdentifier
  dsimp only
  rw [letter]
  rfl

theorem IsSlug.slug_eq_self {t : Text} (h : IsSlug t) : slug t = t := by
  have free : ¬ isReserved t = true := mt (isReserved_iff_mem_reservedNames h.name).1 h.free
  unfold slug
  rw [h.worded.snakeCase_eq, h.name.asIdentifier_eq]
  exact if_neg free

/-! ## Slugs are worded -/

/-- Words in lower case, with single underscores between them. Induction on the words. -/
theorem isWorded_map_joinWith {ws : List Text} (some : ws ≠ []) (solid : ∀ w ∈ ws, w ≠ [])
    (plain : ∀ w ∈ ws, ∀ c ∈ w, c.isAlphanum = true) :
    IsWorded ((joinWith ['_'] ws).map Char.toLower) := by
  induction ws with
  | nil => exact absurd rfl some
  | cons w ws ih =>
    rw [List.forall_mem_cons] at solid plain
    have word : IsWord (w.map Char.toLower) := by
      refine ⟨fun hnil => solid.1 (List.map_eq_nil_iff.1 hnil), ?_⟩
      rw [List.forall_mem_map]
      exact fun c hc => toLower_of_isAlphanum (plain.1 c hc)
    by_cases last : ws = []
    · subst last
      rw [joinWith, List.flatMap_nil, List.append_nil]
      exact .word word
    · rw [joinWith_cons_of_ne_nil _ _ last, List.append_assoc, List.map_append]
      exact .more word (ih last solid.2 plain.2)

theorem snakeCase_eq_nil_or_isWorded (name : Text) :
    snakeCase name = [] ∨ IsWorded (snakeCase name) := by
  by_cases none : words (splitHumps (fold name)) = []
  · unfold snakeCase
    rw [none]
    exact Or.inl rfl
  · exact Or.inr (isWorded_map_joinWith none (fun _ => ne_nil_of_mem_words)
      fun _ => isAlphanum_of_mem_words)

theorem isWorded_asIdentifier (name : Text) : IsWorded (asIdentifier (snakeCase name)) := by
  have node : IsWorded "node".toList := .word isWord_node
  rw [asIdentifier_eq]
  split
  · exact node
  · next some =>
    have snake := (snakeCase_eq_nil_or_isWorded name).resolve_left some
    split
    · exact node.append snake
    · exact snake

theorem isWorded_slug (name : Text) : IsWorded (slug name) := by
  have identifier := isWorded_asIdentifier name
  unfold slug
  dsimp only
  split
  · exact identifier.append (.word isWord_node)
  · exact identifier

theorem not_mem_reservedNames_of_isReserved {t : Text} (name : IsFunctionName t)
    (h : isReserved t = false) : t ∉ reservedNames.map String.toList := by
  rw [← isReserved_iff_mem_reservedNames name, h]
  exact Bool.false_ne_true

theorem isSlug_slug (name : Text) : IsSlug (slug name) where
  name := isFunctionName_slug name
  worded := isWorded_slug name
  free := not_mem_reservedNames_of_isReserved (isFunctionName_slug name) (not_isReserved_slug name)

/-- A text is its own slug exactly if it can be a slug. -/
theorem slug_eq_self_iff (t : Text) : slug t = t ↔ IsSlug t :=
  ⟨fun h => h ▸ isSlug_slug t, IsSlug.slug_eq_self⟩

/-! ## Function names -/

theorem isSlug_suffixed {base : Text} (h : IsSlug base) (n : Nat) : IsSlug (suffixed base n) where
  name := isFunctionName_suffixed h.name n
  worded := h.worded.append (.word (isWord_decimal n))
  free := not_mem_reservedNames_of_isReserved (isFunctionName_suffixed h.name n)
    (not_isReserved_suffixed base n)

theorem isSlug_freeName {base : Text} (h : IsSlug base) (taken : List Text) :
    IsSlug (freeName base taken) := by
  rcases freeName_cases base taken with ⟨heq, -⟩ | ⟨m, -, heq, -⟩
  · rwa [heq]
  · rw [heq]
    exact isSlug_suffixed h m

theorem isSlug_of_mem_assignNames {names : List Text} {f : Text} (h : f ∈ assignNames names) :
    IsSlug f := by
  obtain ⟨name, taken, rfl⟩ := exists_freeName_of_mem_assignAfter h
  exact isSlug_freeName (isSlug_slug name) taken

/-- Distinct slugs that are all free are given out as they are. Induction on the names; each one that
is given out is taken for the ones behind it. -/
theorem assignAfter_of_slugs {taken names : List Text} (slugs : ∀ f ∈ names, slug f = f)
    (distinct : names.Nodup) (free : ∀ f ∈ names, f ∉ taken) : assignAfter taken names = names := by
  induction names generalizing taken with
  | nil => rfl
  | cons f rest ih =>
    rw [List.forall_mem_cons] at slugs free
    rw [List.nodup_cons] at distinct
    have given : freeName (slug f) taken = f := by
      rw [slugs.1]
      unfold freeName
      exact if_neg fun hmem => free.1 (List.contains_iff_mem.1 hmem)
    have later : ∀ g ∈ rest, g ∉ f :: taken := by
      intro g hg hmem
      rcases List.mem_cons.1 hmem with rfl | hmem
      · exact distinct.1 hg
      · exact free.2 g hg hmem
    unfold assignAfter
    dsimp only
    rw [given, ih slugs.2 distinct.2 later]

/-- Slugs are their own slugs, and so are the texts that can be slugs and no others. The names that
are given to functions are such texts, and as names for some steps they are given out again, in the
same order. -/
theorem slug_projects :
    (∀ name : Text, slug (slug name) = slug name) ∧
      (∀ t : Text, slug t = t ↔ IsSlug t) ∧
      ∀ names : List Text, (∀ f ∈ assignNames names, slug f = f) ∧
        assignNames (assignNames names) = assignNames names := by
  have given : ∀ names : List Text, ∀ f ∈ assignNames names, slug f = f :=
    fun names f hf => (isSlug_of_mem_assignNames hf).slug_eq_self
  refine ⟨fun name => (isSlug_slug name).slug_eq_self, slug_eq_self_iff, fun names => ?_⟩
  refine ⟨given names, ?_⟩
  exact assignAfter_of_slugs (given names) (nodup_assignNames names) fun _ _ => List.not_mem_nil

example : slug "import_node_2".toList = "import_node_2".toList := rfl

end GraphScribe
