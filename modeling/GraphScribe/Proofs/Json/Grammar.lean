import GraphScribe.Json.Reader
import GraphScribe.Proofs.Outcome
import GraphScribe.Proofs.Text.Plain

/-!
# The grammar of JSON texts

Which texts are JSON, said by rules and without any reader or limit (`IsDocument`), and that the reader
reads nothing else (`isDocument_of_read`).

## The architecture

* **The rules**: gaps, strings, numbers and words; entries with commas between them; and values, level
  by level (`IsValueOver`), for brackets hold values of a level below.
* **Soundness**: what a part of the reader takes off the front of a text is a part by the rules
  (`Yields`), leaves first, and by induction on the depth for values.
-/

namespace GraphScribe.Json

/-! ## The rules -/

/-- Blanks as JSON allows them between tokens. -/
def IsGap (t : RawText) : Prop :=
  ∀ p ∈ t, p = .scalar ' ' ∨ p = .scalar '\t' ∨ p = .scalar '\n' ∨ p = .scalar '\r'

def IsHexDigit (c : Char) : Prop :=
  ('0' ≤ c ∧ c ≤ '9') ∨ ('a' ≤ c ∧ c ≤ 'f') ∨ ('A' ≤ c ∧ c ≤ 'F')

/-- One piece of a string: a code point that stands for itself, a lone half also, or an escape. -/
inductive IsPiece : RawText → Prop
  | plain {c : Char} (visible : 0x20 ≤ c.toNat) (quote : c ≠ '\x22') (slash : c ≠ '\\') :
      IsPiece [.scalar c]
  | lone (half : Fin 2048) : IsPiece [.lone half]
  | escape {c : Char} (h : c ∈ ['\x22', '\\', '/', 'b', 'f', 'n', 'r', 't']) :
      IsPiece [.scalar '\\', .scalar c]
  | unit {a b c d : Char} (ha : IsHexDigit a) (hb : IsHexDigit b) (hc : IsHexDigit c)
      (hd : IsHexDigit d) :
      IsPiece [.scalar '\\', .scalar 'u', .scalar a, .scalar b, .scalar c, .scalar d]

/-- The pieces of a string one after the other. -/
inductive IsPieces : RawText → Prop
  | nil : IsPieces []
  | cons {w t : RawText} (hw : IsPiece w) (ht : IsPieces t) : IsPieces (w ++ t)

def IsString (t : RawText) : Prop :=
  ∃ pieces, IsPieces pieces ∧ t = .scalar '\x22' :: (pieces ++ [.scalar '\x22'])

/-- One digit or more. -/
def IsDigits (t : RawText) : Prop :=
  t ≠ [] ∧ ∀ p ∈ t, ∃ c, p = .scalar c ∧ '0' ≤ c ∧ c ≤ '9'

def IsSign (t : RawText) : Prop := t = [] ∨ t = [.scalar '-']

/-- A zero, or digits that start with another one. -/
def IsWhole (t : RawText) : Prop :=
  t = [.scalar '0'] ∨ IsDigits t ∧ t.head? ≠ some (.scalar '0')

def IsFraction (t : RawText) : Prop := t = [] ∨ ∃ digits, IsDigits digits ∧ t = .scalar '.' :: digits

def IsExponentSign (t : RawText) : Prop := t = [] ∨ t = [.scalar '+'] ∨ t = [.scalar '-']

def IsExponent (t : RawText) : Prop :=
  t = [] ∨ ∃ mark sign digits, (mark = 'e' ∨ mark = 'E') ∧ IsExponentSign sign ∧ IsDigits digits ∧
    t = .scalar mark :: (sign ++ digits)

def IsNumber (t : RawText) : Prop :=
  ∃ sign whole fraction exponent, IsSign sign ∧ IsWhole whole ∧ IsFraction fraction ∧
    IsExponent exponent ∧ t = sign ++ (whole ++ (fraction ++ exponent))

def words : List String := ["null", "true", "false", "NaN", "Infinity", "-Infinity"]

def IsWord (t : RawText) : Prop := ∃ word ∈ words, t = rawOf word.toList

section

variable (entry : RawText → Prop)

/-- Entries with commas between them, and gaps around the commas and at the end. -/
inductive IsSeries : RawText → Prop
  | last {w gap : RawText} (hw : entry w) (hgap : IsGap gap) : IsSeries (w ++ gap)
  | next {w gap gap' t : RawText} (hw : entry w) (hgap : IsGap gap) (hgap' : IsGap gap')
      (ht : IsSeries t) : IsSeries (w ++ (gap ++ .scalar ',' :: (gap' ++ t)))

/-- What stands between two brackets: entries, or none. -/
def IsContents (t : RawText) : Prop :=
  IsGap t ∨ ∃ gap series, IsGap gap ∧ IsSeries entry series ∧ t = gap ++ series

/-- A member of an object. -/
def IsMember (t : RawText) : Prop :=
  ∃ key gap gap' w, IsString key ∧ IsGap gap ∧ IsGap gap' ∧ entry w ∧
    t = key ++ (gap ++ .scalar ':' :: (gap' ++ w))

/-- A value whose brackets hold the given entries, or members with them. -/
inductive IsValueOver : RawText → Prop
  | string {t : RawText} (h : IsString t) : IsValueOver t
  | number {t : RawText} (h : IsNumber t) : IsValueOver t
  | word {t : RawText} (h : IsWord t) : IsValueOver t
  | array {t : RawText} (h : IsContents entry t) :
      IsValueOver (.scalar '[' :: (t ++ [.scalar ']']))
  | object {t : RawText} (h : IsContents (IsMember entry) t) :
      IsValueOver (.scalar '\x7b' :: (t ++ [.scalar '\x7d']))

end

/-- A value of so many levels at most. -/
def IsValueWithin : Nat → RawText → Prop
  | 0 => fun _ => False
  | levels + 1 => IsValueOver (IsValueWithin levels)

/-- A text that is one value, nested as deep as may be, with gaps around it. -/
def IsDocument (t : RawText) : Prop :=
  ∃ levels gap w gap', IsGap gap ∧ IsValueWithin levels w ∧ IsGap gap' ∧ t = gap ++ (w ++ gap')

/-! ## Characters -/

theorem isGap_iff (p : Point) : isGap p = true ↔
    p = .scalar ' ' ∨ p = .scalar '\t' ∨ p = .scalar '\n' ∨ p = .scalar '\r' := by
  cases p with
  | lone half => simp [isGap]
  | scalar c => simp [isGap, or_assoc]

theorem isGap_of_all {t : RawText} (h : ∀ p ∈ t, isGap p = true) : IsGap t :=
  fun p hp => (isGap_iff p).1 (h p hp)

theorem exists_skipGap_eq (t : RawText) : ∃ gap, IsGap gap ∧ t = gap ++ skipGap t :=
  ⟨t.takeWhile isGap, isGap_of_all (List.all_eq_true.1 List.all_takeWhile),
    (List.takeWhile_append_dropWhile).symm⟩

theorem isDigitPoint_iff (p : Point) :
    isDigitPoint p = true ↔ ∃ c, p = .scalar c ∧ '0' ≤ c ∧ c ≤ '9' := by
  cases p with
  | lone half => simp [isDigitPoint]
  | scalar c => simp [isDigitPoint, isDigit]

theorem isHexDigit_iff (c : Char) : IsHexDigit c ↔ ∃ n, hexDigitValue? c = some n := by
  unfold IsHexDigit hexDigitValue?
  split
  · next h => simp [h]
  split
  · next h => simp [h]
  split
  · next h => simp [h]
  · next h0 ha hA => simp [h0, ha, hA]

theorem isHexDigit_of_mem {digits : Text} {start n : Nat} (h : hexValueFrom? start digits = some n)
    {c : Char} (hc : c ∈ digits) : IsHexDigit c := by
  induction digits generalizing start with
  | nil => exact absurd hc List.not_mem_nil
  | cons d rest ih =>
    rw [hexValueFrom?, Option.bind_eq_some_iff] at h
    obtain ⟨m, hm, hrest⟩ := h
    rcases List.mem_cons.1 hc with rfl | hc
    · exact (isHexDigit_iff c).2 ⟨m, hm⟩
    · exact ih hrest hc

theorem exists_hexValueFrom? {digits : Text} (h : ∀ c ∈ digits, IsHexDigit c) (start : Nat) :
    ∃ n, hexValueFrom? start digits = some n := by
  induction digits generalizing start with
  | nil => exact ⟨start, rfl⟩
  | cons d rest ih =>
    rw [List.forall_mem_cons] at h
    obtain ⟨m, hm⟩ := (isHexDigit_iff d).1 h.1
    obtain ⟨n, hn⟩ := ih h.2 (start * 16 + m)
    exact ⟨n, by rw [hexValueFrom?, hm, Option.bind_some, hn]⟩

theorem exists_escaped?_iff (c : Char) :
    (∃ d, escaped? c = some d) ↔ c ∈ ['\x22', '\\', '/', 'b', 'f', 'n', 'r', 't'] := by
  constructor
  · rintro ⟨d, h⟩
    by_contra hc
    simp only [List.mem_cons, List.not_mem_nil, or_false, not_or] at hc
    simp [escaped?, hc] at h
  · intro h
    simp only [List.mem_cons, List.not_mem_nil, or_false] at h
    rcases h with rfl | rfl | rfl | rfl | rfl | rfl | rfl | rfl <;> exact ⟨_, rfl⟩

/-! ## Soundness of strings -/

/-- Four code points that denote a number are hexadecimal digits. -/
theorem exists_digits_of_hexUnit? {a b c d : Point} {n : Nat} (h : hexUnit? a b c d = some n) :
    ∃ a' b' c' d' : Char, [a, b, c, d] = rawOf [a', b', c', d'] ∧ IsHexDigit a' ∧ IsHexDigit b' ∧
      IsHexDigit c' ∧ IsHexDigit d' := by
  obtain ⟨digits, hdigits, hvalue⟩ := Option.bind_eq_some_iff.1 h
  rw [RawText.text?_eq_some_iff] at hdigits
  have length : digits.length = 4 := by
    have same := congrArg List.length hdigits
    rw [length_rawOf] at same
    exact same.symm
  match digits, length with
  | [a', b', c', d'], _ =>
    have digit := fun e he => isHexDigit_of_mem (c := e) hvalue he
    exact ⟨a', b', c', d', hdigits, digit _ (by simp), digit _ (by simp), digit _ (by simp),
      digit _ (by simp)⟩

/-- What is read as the rest of a string are pieces with a quote behind them. -/
theorem exists_pieces_of_piecesFrom {whole t rest : RawText} {done pieces : List Piece}
    (h : piecesFrom whole done t = .ok (pieces, rest)) :
    ∃ w, IsPieces w ∧ t = w ++ .scalar '\x22' :: rest := by
  have more : ∀ {w t' : RawText}, IsPiece w →
      (∃ w', IsPieces w' ∧ t' = w' ++ .scalar '\x22' :: rest) →
        ∃ w', IsPieces w' ∧ w ++ t' = w' ++ .scalar '\x22' :: rest := by
    rintro w t' hw ⟨w', hw', rfl⟩
    exact ⟨w ++ w', .cons hw hw', (List.append_assoc ..).symm⟩
  fun_induction piecesFrom whole done t with
  | case2 done a b c d next tail n hunit ih =>
    obtain ⟨a', b', c', d', hdigits, ha, hb, hc, hd⟩ := exists_digits_of_hexUnit? hunit
    cases hdigits
    exact more (.unit ha hb hc hd) (ih h)
  | case7 done e tail _ _ c hescaped ih =>
    exact more (.escape ((exists_escaped?_iff e).1 ⟨c, hescaped⟩)) (ih h)
  | case9 done tail =>
    cases h
    exact ⟨[], .nil, rfl⟩
  | case11 done c tail _ _ hempty hlone hscalar hquote hvisible ih =>
    -- every text that starts with a backslash is one of the cases before
    have slash : c ≠ '\\' := by
      rintro rfl
      match tail with
      | [] => exact hempty rfl rfl
      | .lone half :: tail => exact hlone half tail rfl rfl
      | .scalar e :: tail => exact hscalar e tail rfl rfl
    exact more (.plain (Nat.not_lt.1 hvisible) hquote slash) (ih h)
  | case12 done half tail ih => exact more (.lone half) (ih h)
  | _ => cases h

/-- What a part of the reader takes off the front of a text is a part by the rule. -/
def Yields {α : Type} (reader : RawText → Except Stop (α × RawText)) (rule : RawText → Prop) : Prop :=
  ∀ t a rest, reader t = .ok (a, rest) → ∃ w, rule w ∧ t = w ++ rest

theorem exists_string_of_readString {tail rest key : RawText}
    (h : readString (.scalar '\x22' :: tail) = .ok (key, rest)) :
    ∃ w, IsString w ∧ .scalar '\x22' :: tail = w ++ rest := by
  unfold readString at h
  obtain ⟨⟨pieces, after⟩, hpieces, heq⟩ := bind_eq_ok_iff.1 h
  cases heq
  obtain ⟨w, hw, htail⟩ := exists_pieces_of_piecesFrom hpieces
  refine ⟨_, ⟨w, hw, rfl⟩, ?_⟩
  rw [List.drop_succ_cons, List.drop_zero] at htail
  simp [htail]

/-! ## Soundness of numbers and words -/

theorem splitMinus_spec (t : RawText) :
    IsSign (splitMinus t).1 ∧ t = (splitMinus t).1 ++ (splitMinus t).2 := by
  unfold splitMinus
  split
  · exact ⟨Or.inr rfl, rfl⟩
  · exact ⟨Or.inl rfl, rfl⟩

theorem isDigits_takeWhile {t : RawText} (h : t.takeWhile isDigitPoint ≠ []) :
    IsDigits (t.takeWhile isDigitPoint) :=
  ⟨h, fun p hp => (isDigitPoint_iff p).1 (List.all_eq_true.1 List.all_takeWhile p hp)⟩

theorem wholePart_spec (t : RawText) : t = (wholePart t).1 ++ (wholePart t).2 ∧
    ((wholePart t).1 ≠ [] → IsWhole (wholePart t).1) := by
  unfold wholePart
  split
  · exact ⟨rfl, fun _ => Or.inl rfl⟩
  · next hzero =>
    refine ⟨List.takeWhile_append_dropWhile.symm, fun h => Or.inr ⟨isDigits_takeWhile h, ?_⟩⟩
    -- the digits start as the text does, and that is not with a zero
    intro hhead
    cases t with
    | nil => cases hhead
    | cons p t =>
      rw [List.takeWhile_cons] at hhead
      split at hhead
      · cases hhead
        exact hzero t rfl
      · cases hhead

theorem fractionPart_spec (t : RawText) :
    IsFraction (fractionPart t).1 ∧ t = (fractionPart t).1 ++ (fractionPart t).2 := by
  unfold fractionPart
  split
  · next d rest =>
    split
    · next hd =>
      have digits : IsDigits (d :: rest.takeWhile isDigitPoint) := by
        have taken := isDigits_takeWhile (t := d :: rest)
        rw [List.takeWhile_cons, if_pos hd] at taken
        exact taken (List.cons_ne_nil _ _)
      refine ⟨Or.inr ⟨_, digits, rfl⟩, ?_⟩
      simp only [List.cons_append, List.takeWhile_append_dropWhile]
    · exact ⟨Or.inl rfl, rfl⟩
  · exact ⟨Or.inl rfl, rfl⟩

theorem exponentSign_spec (t : RawText) :
    IsExponentSign (exponentSign t).1 ∧ t = (exponentSign t).1 ++ (exponentSign t).2 := by
  unfold exponentSign
  split
  · split
    · next h =>
      rcases h with rfl | rfl
      · exact ⟨Or.inr (Or.inl rfl), rfl⟩
      · exact ⟨Or.inr (Or.inr rfl), rfl⟩
    · exact ⟨Or.inl rfl, rfl⟩
  · exact ⟨Or.inl rfl, rfl⟩

theorem exponentPart_spec (t : RawText) :
    IsExponent (exponentPart t).1 ∧ t = (exponentPart t).1 ++ (exponentPart t).2 := by
  unfold exponentPart
  split
  · next mark rest =>
    obtain ⟨hsign, hrest⟩ := exponentSign_spec rest
    dsimp only
    split
    · next h =>
      refine ⟨Or.inr ⟨mark, _, _, h.1, hsign, isDigits_takeWhile h.2, rfl⟩, ?_⟩
      simp only [List.cons_append, List.append_assoc, List.takeWhile_append_dropWhile]
      rw [← hrest]
    · exact ⟨Or.inl rfl, rfl⟩
  · exact ⟨Or.inl rfl, rfl⟩

theorem yields_readNumber : Yields readNumber IsNumber := by
  intro t v rest h
  obtain ⟨hsign, hunsigned⟩ := splitMinus_spec t
  obtain ⟨hafterWhole, hwhole⟩ := wholePart_spec (splitMinus t).2
  obtain ⟨hfraction, hafterFraction⟩ := fractionPart_spec (wholePart (splitMinus t).2).2
  obtain ⟨hexponent, hrest⟩ := exponentPart_spec (fractionPart (wholePart (splitMinus t).2).2).2
  -- the four parts are cut off one after the other, whether there is a whole part or not
  unfold readNumber at h
  dsimp only at h
  split at h
  · cases h
  next hempty =>
  split at h
  · cases h
  rw [Except.ok.injEq, Prod.mk.injEq] at h
  obtain ⟨-, rfl⟩ := h
  rw [List.isEmpty_iff] at hempty
  refine ⟨_, ⟨_, _, _, _, hsign, hwhole hempty, hfraction, hexponent, rfl⟩, ?_⟩
  rw [List.append_assoc, List.append_assoc, List.append_assoc, ← hrest, ← hafterFraction,
    ← hafterWhole, ← hunsigned]

theorem mem_words_of_mem_wordValues {word : String} {v : Json} (h : (word, v) ∈ wordValues) :
    word ∈ words := by
  have spelled : wordValues.map Prod.fst = words := rfl
  exact spelled ▸ List.mem_map_of_mem (f := Prod.fst) h

theorem exists_word_of_readWord? {t rest : RawText} {v : Json} (h : readWord? t = some (v, rest)) :
    ∃ w, IsWord w ∧ t = w ++ rest := by
  obtain ⟨⟨word, value⟩, hmem, hword⟩ := List.exists_of_findSome?_eq_some h
  dsimp only at hword
  split at hword
  · next hprefix =>
    cases hword
    obtain ⟨after, rfl⟩ := List.isPrefixOf_iff_prefix.1 hprefix
    exact ⟨_, ⟨word, mem_words_of_mem_wordValues hmem, rfl⟩, by rw [List.drop_left]⟩
  · cases hword

/-! ## Soundness of entries and values -/

section

variable {α : Type} {entry : RawText → Except Stop (α × RawText)} {rule : RawText → Prop}

/-- Induction on the fuel: each unit of it is for one entry. -/
theorem exists_series_of_readEntries (sound : Yields entry rule) {close : Char} {fuel : Nat}
    {done entries : List α} {t rest : RawText}
    (h : readEntries close entry fuel done t = .ok (entries, rest)) :
    ∃ w, IsSeries rule w ∧ t = w ++ .scalar close :: rest := by
  induction fuel generalizing done t with
  | zero => cases h
  | succ fuel ih =>
    unfold readEntries at h
    split at h
    · cases h
    next a after hentry =>
    obtain ⟨w, hw, rfl⟩ := sound _ _ _ hentry
    obtain ⟨gap, hgap, hafter⟩ := exists_skipGap_eq after
    split at h
    · next c tail hskip =>
      rw [hskip] at hafter
      split at h
      · next hclose =>
        cases h
        refine ⟨w ++ gap, .last hw hgap, ?_⟩
        rw [hafter, hclose, List.append_assoc]
      split at h
      · next hcomma =>
        obtain ⟨series, hseries, htail⟩ := ih h
        obtain ⟨gap', hgap', heq⟩ := exists_skipGap_eq tail
        refine ⟨_, .next hw hgap hgap' hseries, ?_⟩
        rw [hafter, hcomma, heq, htail]
        simp only [List.append_assoc, List.cons_append]
      · cases h
    · cases h

theorem exists_contents_of_readContents (sound : Yields entry rule) {close : Char}
    {entries : List α} {t rest : RawText} (h : readContents close entry t = .ok (entries, rest)) :
    ∃ w, IsContents rule w ∧ t = w ++ .scalar close :: rest := by
  obtain ⟨gap, hgap, ht⟩ := exists_skipGap_eq t
  -- the entries are read in two branches, of which one has looked at the first character
  have series : ∀ {fuel start}, skipGap t = start →
      readEntries close entry fuel [] start = .ok (entries, rest) →
        ∃ w, IsContents rule w ∧ t = w ++ .scalar close :: rest := by
    rintro fuel start rfl hread
    obtain ⟨w, hw, heq⟩ := exists_series_of_readEntries sound hread
    refine ⟨gap ++ w, Or.inr ⟨gap, w, hgap, hw, rfl⟩, ?_⟩
    rw [ht, heq, List.append_assoc]
  unfold readContents at h
  split at h
  · next c tail hskip =>
    split at h
    · next hclose =>
      cases h
      refine ⟨gap, Or.inl hgap, ?_⟩
      rw [ht, hskip, hclose]
    · exact series hskip h
  · exact series rfl h

end

theorem yields_readMember {value : RawText → Except Stop (Json × RawText)} {rule : RawText → Prop}
    (sound : Yields value rule) : Yields (readMember value) (IsMember rule) := by
  intro t member rest h
  unfold readMember at h
  split at h
  · next tail =>
    obtain ⟨⟨key, after⟩, hkey, h⟩ := bind_eq_ok_iff.1 h
    dsimp only at h
    obtain ⟨w, hw, heq⟩ := exists_string_of_readString hkey
    obtain ⟨gap, hgap, hafter⟩ := exists_skipGap_eq after
    split at h
    · next tail hcolon =>
      obtain ⟨⟨v, rest'⟩, hvalue, h⟩ := bind_eq_ok_iff.1 h
      cases h
      obtain ⟨gap', hgap', htail⟩ := exists_skipGap_eq tail
      obtain ⟨w', hw', hskip⟩ := sound _ _ _ hvalue
      refine ⟨_, ⟨w, gap, gap', w', hw, hgap, hgap', hw', rfl⟩, ?_⟩
      rw [heq, hafter, hcolon, htail, hskip]
      simp only [List.append_assoc, List.cons_append]
    · cases h
  · cases h

theorem yields_readValue_of {depth : Nat}
    (inner : ∀ d, depth = d + 1 → Yields (readValue d) (IsValueWithin depth)) :
    Yields (readValue depth) (IsValueWithin (depth + 1)) := by
  intro t v rest h
  unfold readValue at h
  split at h
  · obtain ⟨⟨s, after⟩, hstring, h⟩ := bind_eq_ok_iff.1 h
    cases h
    obtain ⟨w, hw, heq⟩ := exists_string_of_readString hstring
    exact ⟨w, .string hw, heq⟩
  · split at h
    · cases h
    next d =>
    obtain ⟨⟨items, after⟩, hitems, h⟩ := bind_eq_ok_iff.1 h
    cases h
    obtain ⟨w, hw, rfl⟩ := exists_contents_of_readContents (inner d rfl) hitems
    exact ⟨_, .array hw, by simp⟩
  · split at h
    · cases h
    next d =>
    obtain ⟨⟨members, after⟩, hmembers, h⟩ := bind_eq_ok_iff.1 h
    cases h
    obtain ⟨w, hw, rfl⟩ := exists_contents_of_readContents (yields_readMember (inner d rfl)) hmembers
    exact ⟨_, .object hw, by simp⟩
  · split at h
    · next v' after hword =>
      cases h
      obtain ⟨w, hw, heq⟩ := exists_word_of_readWord? hword
      exact ⟨w, .word hw, heq⟩
    · obtain ⟨w, hw, heq⟩ := yields_readNumber _ _ _ h
      exact ⟨w, .number hw, heq⟩

/-- What is read as a value is one. Induction on the depth that is left. -/
theorem yields_readValue (depth : Nat) : Yields (readValue depth) (IsValueWithin (depth + 1)) := by
  induction depth with
  | zero => exact yields_readValue_of fun d hd => nomatch hd
  | succ depth ih =>
    refine yields_readValue_of fun d hd => ?_
    cases hd
    exact ih

/-- Whatever text is read is JSON by the rules. -/
theorem isDocument_of_read {t : RawText} {v : Json} (h : read t = .ok v) : IsDocument t := by
  have text : readText t = .ok v := mapError_eq_ok_iff.1 h
  unfold readText at text
  obtain ⟨⟨v', rest⟩, hvalue, htext⟩ := bind_eq_ok_iff.1 text
  dsimp only at htext
  obtain ⟨gap, hgap, ht⟩ := exists_skipGap_eq t
  obtain ⟨w, hw, heq⟩ := yields_readValue _ _ _ _ hvalue
  obtain ⟨gap', hgap', hrest⟩ := exists_skipGap_eq rest
  split at htext
  · next hend =>
    rw [hend, List.append_nil] at hrest
    refine ⟨_, gap, w, gap', hgap, hw, hgap', ?_⟩
    rw [ht, heq, ← hrest]
  · cases htext

end GraphScribe.Json
