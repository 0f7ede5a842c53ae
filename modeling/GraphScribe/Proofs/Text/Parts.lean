import GraphScribe.Text.Basic

/-!
# Parts of texts

Splitting undoes joining when no part holds the separator (`splitOn_joinWith`), as joining undoes
splitting. A joined text can also be read as parts that are closed by a separator each, with the last
one open behind them (`joinWith_concat`).
-/

namespace GraphScribe

/-! ## Splitting -/

theorem splitWhere_congr {p q : Char → Bool} {t : Text} (h : ∀ c ∈ t, p c = q c) :
    splitWhere p t = splitWhere q t := by
  induction t with
  | nil => rfl
  | cons c rest ih =>
    rw [List.forall_mem_cons] at h
    rw [splitWhere, splitWhere, h.1, ih h.2]

theorem splitWhere_eq_singleton {p : Char → Bool} {t : Text} (h : ∀ c ∈ t, p c = false) :
    splitWhere p t = [t] := by
  induction t with
  | nil => rfl
  | cons c rest ih =>
    rw [List.forall_mem_cons] at h
    rw [splitWhere, h.1, ih h.2]
    rfl

theorem splitOn_of_not_mem {separator : Char} {part : Text} (h : separator ∉ part) :
    splitOn separator part = [part] := by
  apply splitWhere_eq_singleton
  intro c hc
  exact beq_eq_false_iff_ne.2 fun heq => h (heq ▸ hc)

theorem splitOn_append_separator {separator : Char} {part : Text} (h : separator ∉ part)
    (rest : Text) : splitOn separator (part ++ separator :: rest) = part :: splitOn separator rest := by
  unfold splitOn
  induction part with
  | nil => exact if_pos (beq_self_eq_true separator)
  | cons c part ih =>
    rw [List.mem_cons, not_or] at h
    have hc : (c == separator) = false := beq_eq_false_iff_ne.2 (Ne.symm h.1)
    rw [List.cons_append, splitWhere, hc, ih h.2]
    rfl

theorem exists_concat_splitOn (separator : Char) (t : Text) :
    ∃ front last, splitOn separator t = front ++ [last] :=
  ⟨_, _, (List.dropLast_concat_getLast (splitWhere_ne_nil (· == separator) t)).symm⟩

/-- Parts that are closed by a separator each, and one that is not. -/
theorem splitOn_flatMap_append {separator : Char} {front : List Text} {last : Text}
    (h : ∀ part ∈ front, separator ∉ part) (hlast : separator ∉ last) :
    splitOn separator (front.flatMap (· ++ [separator]) ++ last) = front ++ [last] := by
  induction front with
  | nil => exact splitOn_of_not_mem hlast
  | cons part front ih =>
    rw [List.forall_mem_cons] at h
    rw [List.flatMap_cons, List.append_assoc, List.append_assoc, List.singleton_append,
      splitOn_append_separator h.1, ih h.2, List.cons_append]

/-! ## Joining -/

theorem joinWith_consHead (separator : Text) (c : Char) (parts : List Text) :
    joinWith separator (consHead c parts) = c :: joinWith separator parts := by
  cases parts with
  | nil => rfl
  | cons part parts => rfl

theorem joinWith_cons_of_ne_nil (separator part : Text) {parts : List Text} (h : parts ≠ []) :
    joinWith separator (part :: parts) = part ++ separator ++ joinWith separator parts := by
  obtain ⟨next, others, rfl⟩ := List.exists_cons_of_ne_nil h
  simp [joinWith]

theorem joinWith_concat (separator last : Text) (front : List Text) :
    joinWith separator (front ++ [last]) = front.flatMap (· ++ separator) ++ last := by
  induction front with
  | nil => exact List.append_nil last
  | cons part front ih =>
    have more : front ++ [last] ≠ [] := List.append_ne_nil_of_right_ne_nil _ (List.cons_ne_nil _ _)
    rw [List.cons_append, joinWith_cons_of_ne_nil _ _ more, ih, List.flatMap_cons,
      List.append_assoc _ _ last]

/-- A separator at the end closes the last part like the others. -/
theorem joinWith_append_separator (separator : Text) {parts : List Text} (h : parts ≠ []) :
    joinWith separator parts ++ separator = parts.flatMap (· ++ separator) := by
  rw [← List.dropLast_concat_getLast h, joinWith_concat, List.flatMap_append,
    List.flatMap_singleton, List.append_assoc]

theorem mem_joinWith {separator : Text} {parts : List Text} {c : Char}
    (h : c ∈ joinWith separator parts) : c ∈ separator ∨ ∃ part ∈ parts, c ∈ part := by
  cases parts with
  | nil => exact absurd h List.not_mem_nil
  | cons part parts =>
    rcases List.mem_append.1 h with hpart | hrest
    · exact Or.inr ⟨part, List.mem_cons_self, hpart⟩
    · obtain ⟨next, hnext, hc⟩ := List.mem_flatMap.1 hrest
      rcases List.mem_append.1 hc with hseparator | hc
      · exact Or.inl hseparator
      · exact Or.inr ⟨next, List.mem_cons_of_mem _ hnext, hc⟩

theorem mem_joinWith_of_mem {separator part : Text} {parts : List Text} (hpart : part ∈ parts)
    {c : Char} (hc : c ∈ part) : c ∈ joinWith separator parts := by
  cases parts with
  | nil => exact absurd hpart List.not_mem_nil
  | cons first parts =>
    rcases List.mem_cons.1 hpart with rfl | hpart
    · exact List.mem_append_left _ hc
    · refine List.mem_append_right _ (List.mem_flatMap.2 ⟨part, hpart, ?_⟩)
      exact List.mem_append_right _ hc

/-! ## One after the other -/

/-- Splitting undoes joining. -/
theorem splitOn_joinWith {separator : Char} {parts : List Text} (hne : parts ≠ [])
    (h : ∀ part ∈ parts, separator ∉ part) :
    splitOn separator (joinWith [separator] parts) = parts := by
  rw [← List.dropLast_concat_getLast hne] at h ⊢
  rw [List.forall_mem_append, List.forall_mem_singleton] at h
  rw [joinWith_concat, splitOn_flatMap_append h.1 h.2]

theorem mem_of_mem_splitOn {separator : Char} {t part : Text} (hpart : part ∈ splitOn separator t)
    {c : Char} (hc : c ∈ part) : c ∈ t := by
  rw [← joinWith_splitOn separator t]
  exact mem_joinWith_of_mem hpart hc

end GraphScribe
