import GraphScribe.Number.Numeral
import GraphScribe.Proofs.Binary64
import GraphScribe.Proofs.Outcome
import GraphScribe.Proofs.Text.Letter
import GraphScribe.Proofs.Text.Plain

/-!
# Texts that spell no number

A NaN comes from no decimal, however large or small (`Binary64.ofDecimal_ne_nan`), but it can be spelled
by name. The texts that spell it are exactly the three letters in any case, after a sign or none, with
blanks around them (`Numeral.binary64?_eq_nan_iff`).

## The architecture

* **`Numeral.Plains`** — what becomes of one character on the way to the plain spelling, with
  **`Numeral.plains_of_plain?`** and **`Numeral.exists_plain?_of_padded`** for whole texts.
* **`Numeral.normal?_eq_some_of_body`**, **`Numeral.exists_padding_of_normal?`** — a numeral without
  digits is made normal by taking the blanks off, and in no other way.
* **`Numeral.SpellsNan`** — the spelling.
-/

namespace GraphScribe.Numeral

/-! ## Plain spelling -/

/-- The plain form of a character of a text that is not plain already. -/
def plainChar? (c : Char) : Option Char :=
  if c.toNat < 0x7F then some c
  else if isBlankChar c then some ' '
  else (digitValue? c).map fun d => Char.ofNat (48 + d)

theorem plain?_eq (t : Text) :
    plain? t = if t.all (fun c => c.toNat < 0x80) then some t else t.mapM plainChar? := rfl

/-- Is the character a blank that may stand around a numeral? Of the first 128 characters these are
fewer than the blanks elsewhere. -/
def isOuterBlank (c : Char) : Bool := isPadding c || (0x80 ≤ c.toNat && isBlankChar c)

/-- What may become of a character on the way to the plain spelling: it stays, or a blank becomes a
space, or a digit takes its place. -/
inductive Plains : Char → Char → Prop
  | same {c : Char} (h : c.toNat < 0x80) : Plains c c
  | blank {c : Char} (h : isOuterBlank c = true) : Plains c ' '
  | digit {c d : Char} (h : isDigit d = true) : Plains c d

theorem isDigit_iff_toNat (c : Char) : isDigit c = true ↔ 48 ≤ c.toNat ∧ c.toNat ≤ 57 := by
  unfold isDigit
  rw [Bool.and_eq_true, decide_eq_true_eq, decide_eq_true_eq]
  exact Iff.rfl

theorem isPadding_iff (c : Char) :
    isPadding c = true ↔ c.toNat = 32 ∨ 9 ≤ c.toNat ∧ c.toNat ≤ 13 := by
  unfold isPadding
  rw [Bool.or_eq_true, beq_iff_eq, Bool.and_eq_true, decide_eq_true_eq, decide_eq_true_eq,
    ← Char.toNat_inj]
  exact Iff.rfl

theorem isOuterBlank_iff (c : Char) :
    isOuterBlank c = true ↔ isPadding c = true ∨ 0x80 ≤ c.toNat ∧ isBlankChar c = true := by
  unfold isOuterBlank
  rw [Bool.or_eq_true, Bool.and_eq_true, decide_eq_true_eq]

theorem plains_of_plainChar? {c d : Char} (h : plainChar? c = some d) : Plains c d := by
  unfold plainChar? at h
  split at h
  · next hlow =>
    cases h
    exact .same (by omega)
  · next hhigh =>
    split at h
    · next hblank =>
      cases h
      -- the character after the last plain one is no blank
      have other : c.toNat ≠ 0x7F := by
        intro heq
        have hc : c = '\x7f' := Char.toNat_inj.1 heq
        rw [hc] at hblank
        exact absurd hblank (by decide)
      exact .blank ((isOuterBlank_iff c).2 (.inr ⟨by omega, hblank⟩))
    · obtain ⟨n, hn, rfl⟩ := Option.map_eq_some_iff.1 h
      have plain : ∀ d ≤ 9, isDigit (Char.ofNat (48 + d)) = true := by decide
      exact .digit (plain n (digitValue?_le c n hn))

theorem plains_of_plain? {t v : Text} (h : plain? t = some v) : List.Forall₂ Plains t v := by
  rw [plain?_eq] at h
  split at h
  · next hplain =>
    cases h
    rw [List.forall₂_same]
    intro c hc
    exact .same (of_decide_eq_true (List.all_eq_true.1 hplain c hc))
  · exact (mapM_eq_some_iff.1 h).imp fun _ _ => plains_of_plainChar?

/-! ## Numerals without digits -/

/-- A sign or a letter. -/
def IsBodyChar (c : Char) : Prop :=
  c.toNat = 43 ∨ c.toNat = 45 ∨ (65 ≤ c.toNat ∧ c.toNat ≤ 90) ∨ (97 ≤ c.toNat ∧ c.toNat ≤ 122)

theorem IsBodyChar.isDigit {c : Char} (h : IsBodyChar c) : isDigit c = false := by
  rw [Bool.eq_false_iff, Ne, isDigit_iff_toNat]
  unfold IsBodyChar at h
  omega

theorem IsBodyChar.isPadding {c : Char} (h : IsBodyChar c) : isPadding c = false := by
  rw [Bool.eq_false_iff, Ne, isPadding_iff]
  unfold IsBodyChar at h
  omega

/-- Only a character that stays can become a sign or a letter. -/
theorem IsBodyChar.eq_of_plains {c d : Char} (hd : IsBodyChar d) (h : Plains c d) : c = d := by
  cases h with
  | same => rfl
  | blank => exact absurd hd.isPadding (by decide)
  | digit h =>
    rw [hd.isDigit] at h
    cases h

/-- What is taken for a sign or a letter after the underscores is gone is there from the start: an
underscore has a digit in front of it. -/
theorem eq_of_withoutUnderscores? {before : Char} {t body : Text}
    (h : withoutUnderscores? before t = some body) (hbefore : isDigit before = false)
    (hbody : ∀ c ∈ body, IsBodyChar c) : t = body := by
  induction t generalizing before body with
  | nil =>
    unfold withoutUnderscores? at h
    split at h
    · cases h
    · exact Option.some.inj h
  | cons c rest ih =>
    unfold withoutUnderscores? at h
    split at h
    · rw [if_neg (by rw [hbefore]; exact Bool.false_ne_true)] at h
      cases h
    · split at h
      · cases h
      · obtain ⟨others, hothers, rfl⟩ := Option.map_eq_some_iff.1 h
        rw [List.forall_mem_cons] at hbody
        rw [ih hothers hbody.1.isDigit hbody.2]

theorem withoutUnderscores?_of_not_mem {before : Char} {t : Text} (hbefore : before ≠ '_')
    (h : '_' ∉ t) : withoutUnderscores? before t = some t := by
  induction t generalizing before with
  | nil => exact if_neg hbefore
  | cons c rest ih =>
    rw [List.mem_cons, not_or] at h
    have hc : c ≠ '_' := Ne.symm h.1
    unfold withoutUnderscores?
    rw [if_neg hc, if_neg fun both => hbefore both.1, ih hc h.2]
    rfl

/-- Only blanks can become the blanks around a numeral. -/
theorem isOuterBlank_of_plains {t v : Text} (h : List.Forall₂ Plains t v)
    (hv : ∀ d ∈ v, isPadding d = true) : ∀ c ∈ t, isOuterBlank c = true := by
  intro c hc
  obtain ⟨d, hd, plains⟩ := exists_of_mem_forall₂ (R := flip Plains) h.flip hc
  have padding := hv d hd
  cases plains with
  | same => exact (isOuterBlank_iff c).2 (.inl padding)
  | blank h => exact h
  | digit h =>
    rw [isPadding_iff] at padding
    rw [isDigit_iff_toNat] at h
    omega

theorem eq_of_forall₂_plains {t body : Text} (h : List.Forall₂ Plains t body)
    (hbody : ∀ d ∈ body, IsBodyChar d) : t = body := by
  induction h with
  | nil => rfl
  | cons plains _ ih =>
    rw [List.forall_mem_cons] at hbody
    rw [hbody.1.eq_of_plains plains, ih hbody.2]

/-- A numeral of signs and letters has nothing around it but blanks. -/
theorem exists_padding_of_normal? {t body : Text} (h : normal? t = some body)
    (hbody : ∀ c ∈ body, IsBodyChar c) :
    ∃ before after, t = before ++ body ++ after ∧ (∀ c ∈ before, isOuterBlank c = true) ∧
      ∀ c ∈ after, isOuterBlank c = true := by
  unfold normal? at h
  simp only [Option.bind_eq_bind, Option.bind_eq_some_iff] at h
  obtain ⟨v, hplain, hnormal⟩ := h
  have whole := trimBy_append isPadding v
  have kept := eq_of_withoutUnderscores? hnormal (by decide) hbody
  have spelled := plains_of_plain? hplain
  rw [whole, kept] at spelled
  obtain ⟨front, after, rfl, hfront, hafter⟩ := exists_append_of_forall₂ spelled
  obtain ⟨before, middle, rfl, hbefore, hmiddle⟩ := exists_append_of_forall₂ hfront
  rw [eq_of_forall₂_plains hmiddle hbody]
  exact ⟨before, after, rfl,
    isOuterBlank_of_plains hbefore fun d hd => List.mem_takeWhile_imp hd,
    isOuterBlank_of_plains hafter fun d hd => List.mem_takeWhile_imp (List.mem_reverse.1 hd)⟩

/-- Blanks around a numeral become blanks that are taken off. -/
theorem exists_plainChar?_of_isOuterBlank {c : Char} (h : isOuterBlank c = true) :
    ∃ d, plainChar? c = some d ∧ isPadding d = true := by
  rcases (isOuterBlank_iff c).1 h with hpadding | ⟨hhigh, hblank⟩
  · have low := (isPadding_iff c).1 hpadding
    exact ⟨c, if_pos (by omega), hpadding⟩
  · refine ⟨' ', ?_, by decide⟩
    unfold plainChar?
    rw [if_neg (by omega), if_pos hblank]

theorem IsBodyChar.plainChar? {c : Char} (h : IsBodyChar c) : plainChar? c = some c := by
  unfold IsBodyChar at h
  exact if_pos (by omega)

/-- The plain spelling of signs and letters with blanks around them. -/
theorem exists_plain?_of_padded {before body after : Text}
    (hbefore : ∀ c ∈ before, isOuterBlank c = true) (hbody : ∀ c ∈ body, IsBodyChar c)
    (hafter : ∀ c ∈ after, isOuterBlank c = true) :
    ∃ before' after', plain? (before ++ body ++ after) = some (before' ++ body ++ after') ∧
      (∀ c ∈ before', isPadding c = true) ∧ ∀ c ∈ after', isPadding c = true := by
  rw [plain?_eq]
  split
  · next hplain =>
    -- nothing is changed, and the blanks are among the first characters
    have padding : ∀ c ∈ before ++ body ++ after, isOuterBlank c = true → isPadding c = true := by
      intro c hc houter
      have low := of_decide_eq_true (List.all_eq_true.1 hplain c hc)
      exact ((isOuterBlank_iff c).1 houter).resolve_right fun high => by omega
    exact ⟨before, after, rfl, fun c hc => padding c (by simp [hc]) (hbefore c hc),
      fun c hc => padding c (by simp [hc]) (hafter c hc)⟩
  · have blanks : ∀ part : Text, (∀ c ∈ part, isOuterBlank c = true) →
        ∃ part', List.Forall₂ (fun c d => plainChar? c = some d) part part' ∧
          ∀ d ∈ part', isPadding d = true := by
      intro part hpart
      obtain ⟨part', related⟩ := exists_forall₂ fun c hc =>
        exists_plainChar?_of_isOuterBlank (hpart c hc)
      refine ⟨part', related.imp fun _ _ h => h.1, fun d hd => ?_⟩
      obtain ⟨c, -, -, padding⟩ := exists_of_mem_forall₂ related hd
      exact padding
    obtain ⟨before', spelledBefore, paddingBefore⟩ := blanks before hbefore
    obtain ⟨after', spelledAfter, paddingAfter⟩ := blanks after hafter
    have spelledBody : List.Forall₂ (fun c d => plainChar? c = some d) body body :=
      List.forall₂_same.2 fun c hc => (hbody c hc).plainChar?
    exact ⟨before', after', mapM_eq_some_iff.2
      (List.rel_append (List.rel_append spelledBefore spelledBody) spelledAfter), paddingBefore,
      paddingAfter⟩

theorem normal?_eq_some_of_body {before body after : Text}
    (hbefore : ∀ c ∈ before, isOuterBlank c = true) (hbody : ∀ c ∈ body, IsBodyChar c)
    (hafter : ∀ c ∈ after, isOuterBlank c = true) : normal? (before ++ body ++ after) = some body := by
  obtain ⟨before', after', hplain, hbefore', hafter'⟩ := exists_plain?_of_padded hbefore hbody hafter
  have solid : trimBy isPadding body = body :=
    trimBy_eq_self_of_forall fun c hc => (hbody c hc).isPadding
  have none_there : '_' ∉ body := by
    intro hmem
    have bad := hbody '_' hmem
    unfold IsBodyChar at bad
    simp at bad
  unfold normal?
  rw [hplain]
  show withoutUnderscores? ' ' (trimBy isPadding (before' ++ body ++ after')) = _
  rw [trimBy_append_right hafter', trimBy_append_left hbefore', solid]
  exact withoutUnderscores?_of_not_mem (by decide) none_there

/-! ## The name -/

/-- The signs that may stand in front of a number, and whether it is negative then. -/
def IsSign (negative : Bool) (sign : Text) : Prop :=
  negative = true ∧ sign = ['-'] ∨ negative = false ∧ (sign = ['+'] ∨ sign = [])

/-- The text spells a NaN: the three letters in any case, after a sign or none, with blanks around them. -/
inductive SpellsNan (negative : Bool) : Text → Prop
  | name {before sign name after : Text}
      (blankBefore : ∀ c ∈ before, isOuterBlank c = true)
      (signed : IsSign negative sign)
      (named : name.map Char.toLower = "nan".toList)
      (blankAfter : ∀ c ∈ after, isOuterBlank c = true) :
      SpellsNan negative (before ++ (sign ++ name) ++ after)

/-- A character whose small letter is a small letter is a letter. -/
theorem letter_of_toLower {c : Char} (h : 97 ≤ c.toLower.toNat ∧ c.toLower.toNat ≤ 122) :
    (65 ≤ c.toNat ∧ c.toNat ≤ 90) ∨ (97 ≤ c.toNat ∧ c.toNat ≤ 122) := by
  by_cases hupper : 'A' ≤ c ∧ c ≤ 'Z'
  · exact .inl (toNat_between hupper)
  · have same : c.toLower = c := dif_neg hupper
    rw [same] at h
    exact .inr h

theorem letter_of_mem_name {name : Text} (h : name.map Char.toLower = "nan".toList) {c : Char}
    (hc : c ∈ name) : (65 ≤ c.toNat ∧ c.toNat ≤ 90) ∨ (97 ≤ c.toNat ∧ c.toNat ≤ 122) := by
  have small : ∀ d ∈ "nan".toList, 97 ≤ d.toNat ∧ d.toNat ≤ 122 := forall_mem_of_all rfl
  exact letter_of_toLower (small _ (h ▸ List.mem_map_of_mem hc))

theorem isBodyChar_of_signed {negative : Bool} {sign name : Text} (signed : IsSign negative sign)
    (named : name.map Char.toLower = "nan".toList) : ∀ c ∈ sign ++ name, IsBodyChar c := by
  intro c hc
  rcases List.mem_append.1 hc with hsign | hname
  · rcases signed with ⟨-, rfl⟩ | ⟨-, rfl | rfl⟩
    · exact .inr (.inl (by rw [List.mem_singleton.1 hsign]; rfl))
    · exact .inl (by rw [List.mem_singleton.1 hsign]; rfl)
    · cases hsign
  · exact .inr (.inr (letter_of_mem_name named hname))

theorem sign_not_mem_of_name {name : Text} (named : name.map Char.toLower = "nan".toList) :
    '-' ∉ name ∧ '+' ∉ name :=
  ⟨fun h => absurd (letter_of_mem_name named h) (by decide),
    fun h => absurd (letter_of_mem_name named h) (by decide)⟩

/-- A sign in front of a text without one is split off. -/
theorem splitSign_append {negative : Bool} {sign name : Text}
    (signed : IsSign negative sign)
    (hname : '-' ∉ name ∧ '+' ∉ name) : splitSign (sign ++ name) = (negative, name) := by
  rcases signed with ⟨rfl, rfl⟩ | ⟨rfl, rfl | rfl⟩
  · rfl
  · rfl
  · rw [List.nil_append]
    unfold splitSign
    split
    · exact absurd List.mem_cons_self hname.1
    · exact absurd List.mem_cons_self hname.2
    · rfl

theorem exists_sign_of_splitSign (t : Text) :
    ∃ sign, t = sign ++ (splitSign t).2 ∧ IsSign (splitSign t).1 sign := by
  unfold splitSign
  split
  · exact ⟨['-'], rfl, .inl ⟨rfl, rfl⟩⟩
  · exact ⟨['+'], rfl, .inr ⟨rfl, .inl rfl⟩⟩
  · exact ⟨[], rfl, .inr ⟨rfl, .inr rfl⟩⟩

theorem map_ofDecimal_ne_nan (negative negative' : Bool) {c : Prop} [Decidable c] (digits : Nat)
    (exponent : Option Int) (places : Int) :
    (if c then none else exponent.map fun e => Binary64.ofDecimal negative digits (e - places)) ≠
      some (.nan negative') := by
  split
  · exact nofun
  · intro h
    obtain ⟨e, -, hvalue⟩ := Option.map_eq_some_iff.1 h
    exact Binary64.ofDecimal_ne_nan _ _ _ _ hvalue

theorem decimal?_ne_nan (negative negative' : Bool) (t : Text) :
    decimal? negative t ≠ some (.nan negative') := by
  unfold decimal?
  dsimp only
  -- with a point among the digits and without one
  split
  · exact map_ofDecimal_ne_nan _ _ _ _ _
  · exact map_ofDecimal_ne_nan _ _ _ _ _

/-- What is read as a NaN is its name after the sign. -/
theorem binary64?_eq_nan_iff_splitSign (negative : Bool) (t : Text) :
    binary64? t = some (.nan negative) ↔
      ∃ u, normal? t = some u ∧ (splitSign u).1 = negative ∧
        (splitSign u).2.map Char.toLower = "nan".toList := by
  unfold binary64?
  simp only [Option.bind_eq_bind, Option.bind_eq_some_iff]
  refine exists_congr fun u => and_congr_right fun _ => ?_
  obtain ⟨negative', name⟩ := splitSign u
  dsimp only
  split
  · next infinite =>
    constructor
    · exact nofun
    · rintro ⟨-, named⟩
      rw [named] at infinite
      exact absurd infinite (by decide)
  · split
    · next named => simp [named]
    · next other =>
      exact ⟨fun h => absurd h (decimal?_ne_nan _ _ _), fun h => absurd h.2 other⟩

/-- A text is read as a NaN exactly if it spells one. -/
theorem binary64?_eq_nan_iff (negative : Bool) (t : Text) :
    binary64? t = some (.nan negative) ↔ SpellsNan negative t := by
  rw [binary64?_eq_nan_iff_splitSign]
  constructor
  · rintro ⟨u, hnormal, rfl, named⟩
    obtain ⟨sign, split, signed⟩ := exists_sign_of_splitSign u
    have body : ∀ c ∈ u, IsBodyChar c := by
      rw [split]
      exact isBodyChar_of_signed signed named
    obtain ⟨before, after, rfl, blankBefore, blankAfter⟩ := exists_padding_of_normal? hnormal body
    have spelled := SpellsNan.name blankBefore signed named blankAfter
    rwa [← split] at spelled
  · rintro ⟨blankBefore, signed, named, blankAfter⟩
    refine ⟨_, normal?_eq_some_of_body blankBefore (isBodyChar_of_signed signed named) blankAfter, ?_⟩
    rw [splitSign_append signed (sign_not_mem_of_name named)]
    exact ⟨rfl, named⟩

end GraphScribe.Numeral
