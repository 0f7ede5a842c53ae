import GraphScribe.Proofs.Identifier.Reserved
import GraphScribe.Proofs.Text.Parts

/-!
# How a slug spells its name

The slug of a name spells out the letters and digits of the folded name, every one of them and in
their order. Where the underscores stand is said by the places of these characters in the folded name
alone (`IsParted`), and not by what the steps that make a slug leave for each other.

## The architecture

* **`words_cons_cons`**, **`words_cons_stop`**, **`words_cons_of_not`** — a character in front of a
  text goes to the first word, or is a word of its own, or is lost.
* **`isParted_iff_isHump`** — between neighbours, parted characters are those with a hump between them.
* **`map_joinWith_words_splitHumps`** — humps, words and small letters, from any place on.
* **`filter_spelled`** — the letters and digits are all there, in their order.
* **`slug_eq`** — the slug, with what is put before and behind the spelling.
-/

namespace GraphScribe

/-! ## The spelling of a text -/

/-- The letters and digits of a text, the first character of which has the place `n`, with their
places. -/
def keptFrom (n : Nat) (t : Text) : List (Char × Nat) :=
  (t.zipIdx n).filter fun kept => kept.1.isAlphanum

/-- Two letters or digits of `a` that follow each other, and whether an underscore belongs between
them: something else stands between them, or they are neighbours and the second one is a capital
letter, behind a small letter or a digit, or behind another capital letter and before a small one. -/
def IsParted (a : Text) (x y : Char × Nat) : Prop :=
  x.2 + 1 < y.2 ∨
    x.2 + 1 = y.2 ∧
      ((x.1.isLower ∨ x.1.isDigit) ∧ y.1.isUpper ∨
        x.1.isUpper ∧ y.1.isUpper ∧ (a[y.2 + 1]?).any Char.isLower)

instance (a : Text) (x y : Char × Nat) : Decidable (IsParted a x y) :=
  inferInstanceAs (Decidable (_ ∨ _))

/-- Some letters and digits of `a` in lower case, with an underscore between those that are parted. -/
def spelledFrom (a : Text) : List (Char × Nat) → Text
  | [] => []
  | [x] => [x.1.toLower]
  | x :: y :: rest =>
    x.1.toLower :: ((if IsParted a x y then ['_'] else []) ++ spelledFrom a (y :: rest))

/-- The letters and digits of a text in lower case, with underscores between those that are parted. -/
def spelled (a : Text) : Text := spelledFrom a (keptFrom 0 a)

theorem spelledFrom_cons_ne_nil (a : Text) (x : Char × Nat) (rest : List (Char × Nat)) :
    spelledFrom a (x :: rest) ≠ [] := by
  cases rest with
  | nil => exact List.cons_ne_nil _ _
  | cons y rest => exact List.cons_ne_nil _ _

theorem keptFrom_cons_of_pos {c : Char} (h : c.isAlphanum = true) (n : Nat) (t : Text) :
    keptFrom n (c :: t) = (c, n) :: keptFrom (n + 1) t := by
  unfold keptFrom
  rw [List.zipIdx_cons]
  exact List.filter_cons_of_pos h

theorem keptFrom_cons_of_neg {c : Char} (h : c.isAlphanum = false) (n : Nat) (t : Text) :
    keptFrom n (c :: t) = keptFrom (n + 1) t := by
  unfold keptFrom
  rw [List.zipIdx_cons, List.filter_cons_of_neg (by rw [h]; exact Bool.false_ne_true)]

theorem le_snd_of_mem_keptFrom {n : Nat} {t : Text} {x : Char × Nat} (h : x ∈ keptFrom n t) :
    n ≤ x.2 :=
  List.le_snd_of_mem_zipIdx (List.mem_filter.1 h).1

theorem map_fst_keptFrom (n : Nat) (t : Text) :
    (keptFrom n t).map Prod.fst = t.filter Char.isAlphanum := by
  have places := List.filter_map (f := Prod.fst) (p := Char.isAlphanum) (l := t.zipIdx n)
  rw [List.zipIdx_map_fst] at places
  exact places.symm

theorem isAlphanum_of_mem_keptFrom {n : Nat} {t : Text} {x : Char × Nat} (h : x ∈ keptFrom n t) :
    x.1.isAlphanum = true :=
  (List.mem_filter.1 h).2

theorem toLower_ne_underscore {c : Char} (h : c.isAlphanum = true) : c.toLower ≠ '_' := by
  intro heq
  have small := toLower_of_isAlphanum h
  rw [heq] at small
  exact absurd small (by decide)

/-- Without the underscores there are the letters and digits left. -/
theorem filter_spelledFrom (a : Text) (kept : List (Char × Nat))
    (plain : ∀ x ∈ kept, x.1.isAlphanum = true) :
    (spelledFrom a kept).filter (· ≠ '_') = kept.map fun x => x.1.toLower := by
  fun_induction spelledFrom a kept with
  | case1 => rfl
  | case2 x =>
    have solid := toLower_ne_underscore (plain x List.mem_cons_self)
    rw [List.filter_cons_of_pos (by simpa using solid)]
    rfl
  | case3 x y rest ih =>
    have solid := toLower_ne_underscore (plain x List.mem_cons_self)
    have gap : (if IsParted a x y then ['_'] else []).filter (· ≠ '_') = [] := by
      split
      · rfl
      · rfl
    rw [List.filter_cons_of_pos (by simpa using solid), List.filter_append, gap,
      ih fun z hz => plain z (List.mem_cons_of_mem _ hz)]
    rfl

/-- No letter or digit is lost, and none changes places. -/
theorem filter_spelled (a : Text) :
    (spelled a).filter (· ≠ '_') = (a.filter Char.isAlphanum).map Char.toLower := by
  unfold spelled
  rw [filter_spelledFrom a _ fun _ => isAlphanum_of_mem_keptFrom, ← map_fst_keptFrom 0, List.map_map]
  rfl

/-! ## Words -/

theorem words_cons_of_not {c : Char} (h : c.isAlphanum = false) (t : Text) :
    words (c :: t) = words t := by
  unfold words
  rw [splitWhere, h]
  rfl

theorem words_cons_stop {c d : Char} (hc : c.isAlphanum = true) (hd : d.isAlphanum = false) (t : Text) :
    words (c :: d :: t) = [c] :: words t := by
  unfold words
  rw [splitWhere, splitWhere, hc, hd]
  rfl

theorem words_cons_cons {c d : Char} (hc : c.isAlphanum = true) (hd : d.isAlphanum = true) (t : Text) :
    words (c :: d :: t) = consHead c (words (d :: t)) := by
  obtain ⟨part, parts, heq⟩ :=
    List.exists_cons_of_ne_nil (splitWhere_ne_nil (fun c => !c.isAlphanum) t)
  unfold words
  rw [splitWhere, splitWhere, hc, hd, heq]
  rfl

theorem words_singleton {c : Char} (h : c.isAlphanum = true) : words [c] = [[c]] := by
  unfold words
  rw [splitWhere, h]
  rfl

theorem joinWith_words_eq_nil_iff (separator t : Text) :
    joinWith separator (words t) = [] ↔ words t = [] := by
  constructor
  · intro hnil
    cases hwords : words t with
    | nil => rfl
    | cons w ws =>
      have solid : w ≠ [] := ne_nil_of_mem_words (hwords ▸ List.mem_cons_self)
      rw [hwords] at hnil
      exact absurd (List.append_eq_nil_iff.1 hnil).1 solid
  · intro hnil
    rw [hnil]
    rfl

/-! ## Humps -/

theorem isAlphanum_of_isUpper {c : Char} (h : c.isUpper = true) : c.isAlphanum = true :=
  (isAlphanum_iff c).2 (Or.inl (Or.inl ((isUpper_iff c).1 h)))

theorem isHump_of_not_isAlphanum {c : Char} (h : c.isAlphanum = false) (d : Char)
    (next : Option Char) : isHump c d next = false := by
  have parts : (c.isUpper || c.isLower || c.isDigit) = false := h
  rw [Bool.or_eq_false_iff, Bool.or_eq_false_iff] at parts
  unfold isHump
  rw [parts.1.1, parts.1.2, parts.2]
  exact Bool.and_false _

theorem isHump_of_not_isAlphanum' {d : Char} (h : d.isAlphanum = false) (c : Char)
    (next : Option Char) : isHump c d next = false := by
  unfold isHump
  rw [Bool.and_eq_false_imp]
  intro hupper
  exact absurd (isAlphanum_of_isUpper hupper) (by rw [h]; exact Bool.false_ne_true)

theorem splitHumps_of_not_isAlphanum {c : Char} (h : c.isAlphanum = false) (t : Text) :
    splitHumps (c :: t) = c :: splitHumps t := by
  cases t with
  | nil => rfl
  | cons d rest => rw [splitHumps, isHump_of_not_isAlphanum h, if_neg Bool.false_ne_true]

theorem exists_splitHumps_cons (c : Char) (t : Text) : ∃ rest, splitHumps (c :: t) = c :: rest := by
  cases t with
  | nil => exact ⟨[], rfl⟩
  | cons d rest =>
    rw [splitHumps]
    split
    · exact ⟨_, rfl⟩
    · exact ⟨_, rfl⟩

/-- Neighbours are parted exactly if there is a hump between them. -/
theorem isParted_iff_isHump (before : Text) (c d : Char) (rest : Text) :
    IsParted (before ++ c :: d :: rest) (c, before.length) (d, before.length + 1) ↔
      isHump c d rest.head? = true := by
  have next : (before ++ c :: d :: rest)[before.length + 1 + 1]? = rest.head? := by
    rw [List.getElem?_append_right (by omega), List.head?_eq_getElem?]
    have place : before.length + 1 + 1 - before.length = 2 := by omega
    rw [place]
    rfl
  unfold IsParted isHump
  rw [next]
  simp only [Nat.lt_irrefl, false_or, true_and, Bool.and_eq_true, Bool.or_eq_true]
  constructor
  · rintro (⟨hbefore, hupper⟩ | ⟨hbefore, hupper, hafter⟩)
    · exact ⟨hupper, Or.inl hbefore⟩
    · exact ⟨hupper, Or.inr ⟨hbefore, hafter⟩⟩
  · rintro ⟨hupper, hbefore | ⟨hbefore, hafter⟩⟩
    · exact Or.inl ⟨hbefore, hupper⟩
    · exact Or.inr ⟨hbefore, hupper, hafter⟩

/-! ## Slugs -/

/-- A letter or digit that is parted from what comes behind it is a word of its own. -/
theorem map_joinWith_words_cons {a t : Text} {kept : List (Char × Nat)} (x : Char × Nat)
    (spelling : (joinWith ['_'] (words t)).map Char.toLower = spelledFrom a kept)
    (parted : ∀ y ∈ kept.head?, IsParted a x y) :
    (joinWith ['_'] ([x.1] :: words t)).map Char.toLower = spelledFrom a (x :: kept) := by
  cases kept with
  | nil =>
    have none : words t = [] :=
      (joinWith_words_eq_nil_iff ['_'] t).1 (List.map_eq_nil_iff.1 spelling)
    rw [none]
    rfl
  | cons y kept =>
    have some : words t ≠ [] := by
      intro hnil
      rw [hnil] at spelling
      exact spelledFrom_cons_ne_nil a y kept spelling.symm
    rw [joinWith_cons_of_ne_nil _ _ some, List.map_append, spelling, spelledFrom,
      if_pos (parted y rfl)]
    rfl

section

variable {before t : Text} {c d : Char} (hc : c.isAlphanum = true)
  (spelling : (joinWith ['_'] (words (splitHumps (d :: t)))).map Char.toLower
    = spelledFrom (before ++ c :: d :: t) (keptFrom (before.length + 1) (d :: t)))

include hc spelling

/-- A letter or digit before another one: a word of its own, or the first character of one. -/
theorem map_joinWith_words_neighbours (hd : d.isAlphanum = true) :
    (joinWith ['_'] (words (splitHumps (c :: d :: t)))).map Char.toLower
      = spelledFrom (before ++ c :: d :: t)
          ((c, before.length) :: keptFrom (before.length + 1) (d :: t)) := by
  have between := isParted_iff_isHump before c d t
  rw [splitHumps]
  cases hhump : isHump c d t.head? with
  | true =>
    rw [if_pos rfl, words_cons_stop hc (by decide)]
    refine map_joinWith_words_cons (c, before.length) spelling fun y hy => ?_
    rw [keptFrom_cons_of_pos hd] at hy
    obtain rfl : (d, before.length + 1) = y := Option.some.inj hy
    exact between.2 hhump
  | false =>
    have joined := mt between.1 (by rw [hhump]; exact Bool.false_ne_true)
    obtain ⟨others, heq⟩ := exists_splitHumps_cons d t
    rw [if_neg Bool.false_ne_true, heq, words_cons_cons hc hd, ← heq, joinWith_consHead,
      List.map_cons, spelling, keptFrom_cons_of_pos hd, spelledFrom, if_neg joined]
    rfl

/-- A letter or digit before any other character: the next one is two places on, or further. -/
theorem map_joinWith_words_gap (hd : d.isAlphanum = false) :
    (joinWith ['_'] (words (splitHumps (c :: d :: t)))).map Char.toLower
      = spelledFrom (before ++ c :: d :: t)
          ((c, before.length) :: keptFrom (before.length + 1) (d :: t)) := by
  rw [splitHumps_of_not_isAlphanum hd, words_cons_of_not hd] at spelling
  rw [splitHumps, isHump_of_not_isAlphanum' hd, if_neg Bool.false_ne_true,
    splitHumps_of_not_isAlphanum hd, words_cons_stop hc hd]
  refine map_joinWith_words_cons (c, before.length) spelling fun y hy => Or.inl ?_
  rw [keptFrom_cons_of_neg hd] at hy
  exact le_snd_of_mem_keptFrom (List.mem_of_mem_head? hy)

end

/-- Humps, words and small letters, from the place behind `before` on. Induction on the rest of the
text; what the first character does depends on the one behind it. -/
theorem map_joinWith_words_splitHumps (before rest : Text) :
    (joinWith ['_'] (words (splitHumps rest))).map Char.toLower
      = spelledFrom (before ++ rest) (keptFrom before.length rest) := by
  induction rest generalizing before with
  | nil => rfl
  | cons c t ih =>
    have spelling : (joinWith ['_'] (words (splitHumps t))).map Char.toLower
        = spelledFrom (before ++ c :: t) (keptFrom (before.length + 1) t) := by
      rw [ih (before ++ [c]), List.append_assoc, List.length_append]
      rfl
    cases hc : c.isAlphanum with
    | false =>
      rw [splitHumps_of_not_isAlphanum hc, words_cons_of_not hc, keptFrom_cons_of_neg hc, spelling]
    | true =>
      rw [keptFrom_cons_of_pos hc]
      cases t with
      | nil =>
        show (joinWith ['_'] (words [c])).map Char.toLower = [c.toLower]
        rw [words_singleton hc]
        rfl
      | cons d t =>
        cases hd : d.isAlphanum with
        | false => exact map_joinWith_words_gap hc spelling hd
        | true => exact map_joinWith_words_neighbours hc spelling hd

theorem snakeCase_eq_spelled (name : Text) : snakeCase name = spelled (fold name) :=
  map_joinWith_words_splitHumps [] (fold name)

theorem asIdentifier_eq (s : Text) :
    asIdentifier s = if s = [] then "node".toList
      else if s.head?.any Char.isDigit then "node_".toList ++ s else s := by
  cases s with
  | nil => rfl
  | cons c t =>
    rw [if_neg (List.cons_ne_nil c t)]
    rfl

/-- The names that no slug may be: the keywords, the names that are bound in every program, and the
names that the program binds for itself. -/
def reservedNames : List String :=
  keywords ++ capitalKeywords ++ builtinNames ++ capitalBuiltinNames ++ programNames

/-- Function names are compared with the reserved names in lower case only, and this is enough. -/
theorem isReserved_iff_mem_reservedNames {t : Text} (h : IsFunctionName t) :
    isReserved t = true ↔ t ∈ reservedNames.map String.toList := by
  constructor
  · intro hreserved
    obtain ⟨w, hw, heq⟩ := (isReserved_eq_true_iff t).1 hreserved
    refine List.mem_map.2 ⟨w, ?_, heq⟩
    unfold reservedNames
    simp only [List.mem_append] at hw ⊢
    rcases hw with (hkeyword | hprogram) | hbuiltin
    · exact Or.inl (Or.inl (Or.inl (Or.inl hkeyword)))
    · exact Or.inr hprogram
    · exact Or.inl (Or.inl (Or.inr hbuiltin))
  · intro hmem
    obtain ⟨w, hw, rfl⟩ := List.mem_map.1 hmem
    have used : w ∈ namesInUse := List.mem_append_left sectionNames hw
    rcases isReserved_or_of_mem_namesInUse used with hreserved | hstart
    · exact hreserved
    · obtain ⟨c, rest, heq, hc, -⟩ := h
      exact absurd hc (hstart c (by rw [heq]; rfl))

theorem suffix_asIdentifier (s : Text) : s <:+ asIdentifier s := by
  rw [asIdentifier_eq]
  split
  · next hnil =>
    rw [hnil]
    exact List.nil_suffix
  · split
    · exact List.suffix_append _ s
    · exact List.suffix_refl s

theorem snakeCase_infix_slug (name : Text) : snakeCase name <:+: slug name := by
  have inside := (suffix_asIdentifier (snakeCase name)).isInfix
  unfold slug
  dsimp only
  split
  · exact inside.trans (List.prefix_append _ _).isInfix
  · exact inside

/-- The slug of a name: the letters and digits of the folded name in lower case, with one underscore
between any two of them that are parted there; `node` if there are none, and behind `node_` if the
first one is a digit; and before `_node` if this is a reserved name. So no letter or digit of the
folded name is lost, and none changes places. -/
theorem slug_eq (name : Text) :
    let s := spelled (fold name)
    let identifier := if s = [] then "node".toList
      else if s.head?.any Char.isDigit then "node_".toList ++ s else s
    slug name = (if identifier ∈ reservedNames.map String.toList then identifier ++ "_node".toList
        else identifier) ∧
      s.filter (· ≠ '_') = ((fold name).filter Char.isAlphanum).map Char.toLower ∧
      s <:+: slug name := by
  intro s identifier
  have snake : snakeCase name = s := snakeCase_eq_spelled name
  have same : asIdentifier (snakeCase name) = identifier := by
    rw [snake]
    exact asIdentifier_eq s
  have reserved : isReserved identifier = true ↔ identifier ∈ reservedNames.map String.toList :=
    isReserved_iff_mem_reservedNames (same ▸ isFunctionName_asIdentifier name)
  refine ⟨?_, filter_spelled (fold name), snake ▸ snakeCase_infix_slug name⟩
  unfold slug
  rw [same]
  exact if_congr reserved rfl rfl

example : slug "HTTPRequest2Go, v2".toList = "http_request2_go_v2".toList := rfl

end GraphScribe
