import GraphScribe.Proofs.Json.Grammar
import GraphScribe.Proofs.Json.Reading

/-!
# JSON texts are read or too large

The reader takes every text that is JSON by the rules, unless one of its limits is in the way: such a
text is never found to depart from the grammar (`read_of_isDocument`).

## The architecture

* **What the reader stops before** (`EndsValue`): behind a value stands nothing, a gap, a comma or a
  closing bracket, and none of them could go on a number.
* **Leaves**: strings, numbers and words are taken off the front of a text as they stand.
* **Brackets** (`Accepts`): each entry is taken off as it stands or stops the whole at a limit; by
  induction on the entries, and then on the levels of a value.
-/

namespace GraphScribe.Json

/-! ## Limits -/

/-- The reader has stopped at a limit, and not because of a departure from the grammar. -/
def Stop.IsLimit : Stop → Prop
  | .departure .. => False
  | .digits _ | .nesting _ => True

/-- A text is no JSON within the limits on digits and nesting, though nothing departs from the
grammar up to there. -/
def Fault.IsLimit : Fault → Prop
  | .departure .. => False
  | .digits _ | .nesting _ => True

theorem Stop.isLimit_inText_iff (t : RawText) (stop : Stop) :
    (stop.inText t).IsLimit ↔ stop.IsLimit := by
  cases stop <;> exact Iff.rfl

/-- The reader has come to `rest`, or a limit was in the way. -/
def Reaches {α : Type} (rest : RawText) (outcome : Except Stop (α × RawText)) : Prop :=
  (∃ a, outcome = .ok (a, rest)) ∨ ∃ stop, outcome = .error stop ∧ stop.IsLimit

theorem Reaches.bind {α β : Type} {rest rest' : RawText} {first : Except Stop (α × RawText)}
    {next : α × RawText → Except Stop (β × RawText)} (h : Reaches rest first)
    (h' : ∀ a, Reaches rest' (next (a, rest))) : Reaches rest' (first >>= next) := by
  rcases h with ⟨a, rfl⟩ | ⟨stop, rfl, limit⟩
  · exact h' a
  · exact Or.inr ⟨stop, rfl, limit⟩

theorem reaches_ok {α : Type} (a : α) (rest : RawText) : Reaches rest (.ok (a, rest)) :=
  Or.inl ⟨a, rfl⟩

/-! ## What stands behind a value -/

/-- The first code point, if there is one, has the property. -/
def Heads (p : Point → Prop) (t : RawText) : Prop := ∀ q ∈ t.head?, p q

theorem heads_append {p : Point → Prop} {s t : RawText} (hs : Heads p s) (ht : Heads p t) :
    Heads p (s ++ t) := by
  cases s with
  | nil => exact ht
  | cons q s => exact hs

theorem Heads.imp {p q : Point → Prop} {t : RawText} (h : Heads p t) (hpq : ∀ x, p x → q x) :
    Heads q t := fun x hx => hpq x (h x hx)

/-- Nothing, a gap, a comma or a closing bracket. -/
def EndsValue (t : RawText) : Prop :=
  Heads (fun p => isGap p = true ∨ p = .scalar ',' ∨ p = .scalar ']' ∨ p = .scalar '\x7d') t

/-- Is the code point none of those that a number could go on with? -/
def isBeyondNumber (p : Point) : Bool :=
  !isDigitPoint p && p != .scalar '.' && p != .scalar 'e' && p != .scalar 'E'

theorem EndsValue.beyondNumber {t : RawText} (h : EndsValue t) :
    Heads (fun p => isBeyondNumber p = true) t := by
  refine Heads.imp h fun p hp => ?_
  rw [isGap_iff] at hp
  rcases hp with (rfl | rfl | rfl | rfl) | rfl | rfl | rfl <;> decide

/-! ## Strings -/

theorem exists_piecesFrom_of_isPieces (whole : RawText) {w : RawText} (hw : IsPieces w)
    (done : List Piece) (rest : RawText) :
    ∃ pieces, piecesFrom whole done (w ++ .scalar '\x22' :: rest) = .ok (pieces, rest) := by
  induction hw generalizing done with
  | nil => exact ⟨_, by rw [List.nil_append, piecesFrom]⟩
  | @cons piece w hpiece hw ih =>
    -- a unit is complete only because the quote is still to come
    obtain ⟨next, others, hnext⟩ : ∃ next others, w ++ .scalar '\x22' :: rest = next :: others :=
      List.exists_cons_of_ne_nil (by simp)
    cases hpiece with
    | @plain c visible quote slash =>
      obtain ⟨pieces, h⟩ := ih (.point (.scalar c) :: done)
      exact ⟨pieces, (piecesFrom_plain whole done quote slash (Nat.not_lt.2 visible) _).trans h⟩
    | lone half => exact ih (.point (.lone half) :: done)
    | @escape e he =>
      obtain ⟨c, hc⟩ := (exists_escaped?_iff e).2 he
      obtain ⟨pieces, h⟩ := ih (.point (.scalar c) :: done)
      exact ⟨pieces, (piecesFrom_escape whole done hc _).trans h⟩
    | @unit a b c d ha hb hc hd =>
      have digits : ∀ e ∈ [a, b, c, d], IsHexDigit e := by simp [ha, hb, hc, hd]
      obtain ⟨n, hn⟩ := exists_hexValueFrom? digits 0
      obtain ⟨pieces, h⟩ := ih (.unit n :: done)
      have four : [a, b, c, d].length = 4 := rfl
      have unit := piecesFrom_unit whole done four hn next others
      rw [← hnext] at unit
      exact ⟨pieces, unit.trans h⟩

theorem exists_readString_of_isString {w : RawText} (hw : IsString w) (rest : RawText) :
    ∃ s, readString (w ++ rest) = .ok (s, rest) := by
  obtain ⟨pieces, hpieces, rfl⟩ := hw
  obtain ⟨read, hread⟩ := exists_piecesFrom_of_isPieces
    (.scalar '\x22' :: (pieces ++ [.scalar '\x22']) ++ rest) hpieces [] rest
  refine ⟨joinPieces [] read, ?_⟩
  unfold readString
  rw [List.cons_append, List.drop_succ_cons, List.drop_zero, List.append_assoc,
    List.singleton_append]
  rw [List.cons_append, List.append_assoc, List.singleton_append] at hread
  rw [hread]
  rfl

/-! ## Numbers -/

theorem span_digits {digits t : RawText} (h : IsDigits digits)
    (ht : Heads (fun p => isDigitPoint p = false) t) :
    (digits ++ t).takeWhile isDigitPoint = digits ∧ (digits ++ t).dropWhile isDigitPoint = t := by
  have all : ∀ p ∈ digits, isDigitPoint p = true := fun p hp => (isDigitPoint_iff p).2 (h.2 p hp)
  rw [List.takeWhile_append_of_pos all, List.dropWhile_append_of_pos all]
  cases t with
  | nil => simp
  | cons p t =>
    have hp : isDigitPoint p = false := ht p rfl
    simp [hp]

theorem IsDigits.exists_cons {digits : RawText} (h : IsDigits digits) :
    ∃ c tail, digits = .scalar c :: tail ∧ '0' ≤ c ∧ c ≤ '9' := by
  obtain ⟨p, tail, rfl⟩ := List.exists_cons_of_ne_nil h.1
  obtain ⟨c, rfl, hc⟩ := h.2 p List.mem_cons_self
  exact ⟨c, tail, rfl, hc⟩

theorem IsWhole.exists_cons {whole : RawText} (h : IsWhole whole) :
    ∃ c tail, whole = .scalar c :: tail ∧ '0' ≤ c ∧ c ≤ '9' := by
  rcases h with rfl | ⟨digits, -⟩
  · exact ⟨'0', [], rfl, by decide, by decide⟩
  · exact digits.exists_cons

theorem splitMinus_append {sign whole : RawText} (hsign : IsSign sign) (hwhole : IsWhole whole)
    (t : RawText) : splitMinus (sign ++ (whole ++ t)) = (sign, whole ++ t) := by
  obtain ⟨c, tail, rfl, low, high⟩ := hwhole.exists_cons
  rcases hsign with rfl | rfl
  · have bare : c ≠ '-' := by
      rintro rfl
      exact absurd low (by decide)
    rw [List.nil_append, List.cons_append, splitMinus]
    simp [bare]
  · rfl

theorem wholePart_append {whole t : RawText} (h : IsWhole whole)
    (ht : Heads (fun p => isDigitPoint p = false) t) : wholePart (whole ++ t) = (whole, t) := by
  rcases h with rfl | ⟨digits, start⟩
  · rfl
  · obtain ⟨taken, left⟩ := span_digits digits ht
    obtain ⟨c, tail, rfl, -⟩ := digits.exists_cons
    have zero : c ≠ '0' := fun h => start (congrArg (fun c => some (Point.scalar c)) h)
    rw [List.cons_append] at taken left ⊢
    rw [wholePart, taken, left]
    simp [zero]

theorem fractionPart_append {fraction t : RawText} (h : IsFraction fraction)
    (ht : Heads (fun p => isDigitPoint p = false ∧ p ≠ .scalar '.') t) :
    fractionPart (fraction ++ t) = (fraction, t) := by
  rcases h with rfl | ⟨digits, hdigits, rfl⟩
  · cases t with
    | nil => rfl
    | cons p t =>
      have hp : p ≠ .scalar '.' := (ht p rfl).2
      rw [List.nil_append, fractionPart]
      simp [hp]
  · obtain ⟨taken, left⟩ := span_digits hdigits (ht.imp fun _ h => h.1)
    obtain ⟨c, tail, rfl, low, high⟩ := hdigits.exists_cons
    have hc : isDigitPoint (.scalar c) = true := (isDigitPoint_iff _).2 ⟨c, rfl, low, high⟩
    rw [List.cons_append, List.takeWhile_cons, if_pos hc] at taken
    rw [List.cons_append, List.dropWhile_cons, if_pos hc] at left
    show fractionPart (.scalar '.' :: .scalar c :: (tail ++ t)) = _
    rw [fractionPart, if_pos hc, List.tail_eq_of_cons_eq taken, left]

theorem exponentSign_append {sign digits : RawText} (hsign : IsExponentSign sign)
    (hdigits : IsDigits digits) (t : RawText) :
    exponentSign (sign ++ (digits ++ t)) = (sign, digits ++ t) := by
  obtain ⟨c, tail, rfl, low, high⟩ := hdigits.exists_cons
  rcases hsign with rfl | rfl | rfl
  · have bare : ¬ (c = '+' ∨ c = '-') := by
      rintro (rfl | rfl) <;> exact absurd low (by decide)
    show exponentSign (.scalar c :: (tail ++ t)) = _
    rw [exponentSign, if_neg bare]
    rfl
  · rfl
  · rfl

theorem exponentPart_append {exponent t : RawText} (h : IsExponent exponent)
    (ht : Heads (fun p => isBeyondNumber p = true) t) :
    exponentPart (exponent ++ t) = (exponent, t) := by
  rcases h with rfl | ⟨mark, sign, digits, hmark, hsign, hdigits, rfl⟩
  · cases t with
    | nil => rfl
    | cons p t =>
      cases p with
      | lone half => rfl
      | scalar c =>
        have hc : isBeyondNumber (.scalar c) = true := ht _ rfl
        have other : ¬ (c = 'e' ∨ c = 'E') := by
          rintro (rfl | rfl) <;> exact absurd hc (by decide)
        rw [List.nil_append, exponentPart]
        exact if_neg fun h => other h.1
  · have digit : Heads (fun p => isDigitPoint p = false) t :=
      ht.imp fun p hp => by simp [isBeyondNumber] at hp; exact hp.1.1.1
    obtain ⟨taken, left⟩ := span_digits hdigits digit
    have signed := exponentSign_append hsign hdigits t
    show exponentPart (.scalar mark :: (sign ++ digits ++ t)) = _
    rw [List.append_assoc, exponentPart, signed]
    dsimp only
    rw [taken, left, if_pos ⟨hmark, hdigits.1⟩]
    rfl

theorem heads_exponent {exponent : RawText} (h : IsExponent exponent) :
    Heads (fun p => isDigitPoint p = false ∧ p ≠ .scalar '.') exponent := by
  rcases h with rfl | ⟨mark, sign, digits, rfl | rfl, -, -, rfl⟩
  · exact fun p hp => by cases hp
  · exact fun p hp => by cases hp; decide
  · exact fun p hp => by cases hp; decide

theorem heads_fraction {fraction : RawText} (h : IsFraction fraction) :
    Heads (fun p => isDigitPoint p = false) fraction := by
  rcases h with rfl | ⟨digits, -, rfl⟩
  · exact fun p hp => by cases hp
  · exact fun p hp => by cases hp; decide

theorem reaches_readNumber {w rest : RawText} (hw : IsNumber w) (hrest : EndsValue rest) :
    Reaches rest (readNumber (w ++ rest)) := by
  obtain ⟨sign, whole, fraction, exponent, hsign, hwhole, hfraction, hexponent, rfl⟩ := hw
  have beyond := hrest.beyondNumber
  -- no part can go on with what comes after it
  have afterFraction : Heads (fun p => isDigitPoint p = false ∧ p ≠ .scalar '.')
      (exponent ++ rest) := by
    refine heads_append (heads_exponent hexponent) (beyond.imp fun p hp => ?_)
    simp only [isBeyondNumber, Bool.and_eq_true, Bool.not_eq_true', bne_iff_ne] at hp
    exact hp.1.1
  have afterWhole : Heads (fun p => isDigitPoint p = false) (fraction ++ (exponent ++ rest)) :=
    heads_append (heads_fraction hfraction) (afterFraction.imp fun _ h => h.1)
  have nonempty : whole.isEmpty = false := by
    obtain ⟨c, tail, rfl, -⟩ := hwhole.exists_cons
    rfl
  simp only [List.append_assoc]
  unfold readNumber
  rw [splitMinus_append hsign hwhole]
  dsimp only
  rw [wholePart_append hwhole afterWhole]
  dsimp only
  rw [fractionPart_append hfraction afterFraction]
  dsimp only
  rw [exponentPart_append hexponent beyond]
  dsimp only
  rw [nonempty, if_neg Bool.false_ne_true]
  split
  · exact Or.inr ⟨_, rfl, trivial⟩
  · exact reaches_ok _ _

/-! ## Words -/

theorem exists_readWord?_of_isWord {w : RawText} (hw : IsWord w) (rest : RawText) :
    ∃ v, readWord? (w ++ rest) = some (v, rest) := by
  obtain ⟨word, hword, rfl⟩ := hw
  simp only [words, List.mem_cons, List.not_mem_nil, or_false] at hword
  rcases hword with rfl | rfl | rfl | rfl | rfl | rfl <;> exact ⟨_, rfl⟩

/-- No number starts like a word. -/
theorem readWord?_of_isNumber {w : RawText} (hw : IsNumber w) (rest : RawText) :
    readWord? (w ++ rest) = none := by
  obtain ⟨sign, whole, fraction, exponent, hsign, hwhole, -, -, rfl⟩ := hw
  obtain ⟨c, tail, rfl, low, high⟩ := hwhole.exists_cons
  -- the first two characters of the number are enough to tell it from every word
  have letters : ∀ d, d ∈ ['n', 't', 'f', 'N', 'I', '-'] → d ≠ c := by
    rintro d hd rfl
    have apart : ∀ d ∈ ['n', 't', 'f', 'N', 'I', '-'], ¬ ('0' ≤ d ∧ d ≤ '9') := by simp
    exact apart d hd ⟨low, high⟩
  simp only [List.forall_mem_cons] at letters
  rcases hsign with rfl | rfl <;>
    simp [readWord?, wordValues, rawOf, letters]

/-! ## Entries -/

/-- What the rule allows starts with a character that is no gap and no closing bracket. -/
def Opens (rule : RawText → Prop) : Prop :=
  ∀ w, rule w → ∃ c tail, w = .scalar c :: tail ∧ isGap (.scalar c) = false ∧ c ≠ ']' ∧ c ≠ '\x7d'

/-- The reader takes what the rule allows off the front of a text, or stops at a limit. -/
def Accepts {α : Type} (reader : RawText → Except Stop (α × RawText)) (rule : RawText → Prop) : Prop :=
  ∀ w, rule w → ∀ rest, EndsValue rest → Reaches rest (reader (w ++ rest))

theorem IsGap.skipGap_append {gap : RawText} (h : IsGap gap) (t : RawText) :
    skipGap (gap ++ t) = skipGap t :=
  List.dropWhile_append_of_pos fun p hp => (isGap_iff p).2 (h p hp)

theorem IsGap.endsValue_append {gap t : RawText} (h : IsGap gap) (ht : EndsValue t) :
    EndsValue (gap ++ t) := by
  refine heads_append (fun p hp => Or.inl ((isGap_iff p).2 (h p ?_))) ht
  exact List.mem_of_mem_head? hp

theorem Opens.skipGap_append {rule : RawText → Prop} (opens : Opens rule) {w : RawText} (hw : rule w)
    {gap : RawText} (hgap : IsGap gap) (t : RawText) : skipGap (gap ++ (w ++ t)) = w ++ t := by
  obtain ⟨c, tail, rfl, visible, -⟩ := opens w hw
  rw [hgap.skipGap_append]
  exact skipGap_cons visible _

theorem opens_isSeries {rule : RawText → Prop} (opens : Opens rule) : Opens (IsSeries rule) := by
  intro w hw
  cases hw with
  | @last w gap hw =>
    obtain ⟨c, tail, rfl, rest⟩ := opens w hw
    exact ⟨c, tail ++ gap, rfl, rest⟩
  | @next w gap gap' t hw =>
    obtain ⟨c, tail, rfl, rest⟩ := opens w hw
    exact ⟨c, _, rfl, rest⟩

section

variable {α : Type} {entry : RawText → Except Stop (α × RawText)} {rule : RawText → Prop}
  (accepts : Accepts entry rule) (opens : Opens rule) {close : Char}
  (hclose : close = ']' ∨ close = '\x7d')

include hclose

theorem endsValue_close (t : RawText) : EndsValue (.scalar close :: t) := by
  intro p hp
  cases hp
  rcases hclose with rfl | rfl
  · exact Or.inr (Or.inr (Or.inl rfl))
  · exact Or.inr (Or.inr (Or.inr rfl))

theorem visible_close : isGap (.scalar close) = false := by
  rcases hclose with rfl | rfl <;> decide

include accepts opens

/-- Entries are taken off one by one. Induction on them; each costs one unit of fuel and at least one
code point. -/
theorem reaches_readEntries {w : RawText} (hw : IsSeries rule w) {fuel : Nat}
    (enough : w.length < fuel) (done : List α) (rest : RawText) :
    Reaches rest (readEntries close entry fuel done (w ++ .scalar close :: rest)) := by
  induction hw generalizing fuel done with
  | @last w gap hw hgap =>
    obtain ⟨fuel, rfl⟩ := Nat.exists_eq_succ_of_ne_zero (Nat.ne_zero_of_lt enough)
    have ends := hgap.endsValue_append (endsValue_close hclose rest)
    rw [List.append_assoc, readEntries]
    -- a limit in an entry is a limit of the whole
    rcases accepts w hw _ ends with ⟨a, h⟩ | ⟨stop, h, limit⟩
    · rw [h]
      dsimp only
      rw [hgap.skipGap_append, skipGap_cons (visible_close hclose)]
      dsimp only
      rw [if_pos rfl]
      exact reaches_ok _ rest
    · rw [h]
      exact Or.inr ⟨stop, rfl, limit⟩
  | @next w gap gap' t hw hgap hgap' ht ih =>
    obtain ⟨fuel, rfl⟩ := Nat.exists_eq_succ_of_ne_zero (Nat.ne_zero_of_lt enough)
    have ends : EndsValue (gap ++ .scalar ',' :: (gap' ++ (t ++ .scalar close :: rest))) :=
      hgap.endsValue_append fun p hp => by
        cases hp
        exact Or.inr (Or.inl rfl)
    have other : ',' ≠ close := by
      rcases hclose with rfl | rfl <;> decide
    have enough' : t.length < fuel := by
      simp only [List.length_append, List.length_cons] at enough
      omega
    simp only [List.append_assoc, List.cons_append]
    rw [readEntries]
    rcases accepts w hw _ ends with ⟨a, h⟩ | ⟨stop, h, limit⟩
    · rw [h]
      dsimp only
      rw [hgap.skipGap_append, skipGap_cons (by decide)]
      dsimp only
      rw [if_neg other, if_pos rfl, (opens_isSeries opens).skipGap_append ht hgap']
      exact ih enough' (a :: done)
    · rw [h]
      exact Or.inr ⟨stop, rfl, limit⟩

theorem reaches_readContents {w : RawText} (hw : IsContents rule w) (rest : RawText) :
    Reaches rest (readContents close entry (w ++ .scalar close :: rest)) := by
  unfold readContents
  rcases hw with hgap | ⟨gap, series, hgap, hseries, rfl⟩
  · rw [hgap.skipGap_append, skipGap_cons (visible_close hclose)]
    dsimp only
    rw [if_pos rfl]
    exact reaches_ok _ rest
  · rw [List.append_assoc, (opens_isSeries opens).skipGap_append hseries hgap]
    obtain ⟨c, tail, rfl, -, square, curly⟩ := opens_isSeries opens series hseries
    have other : c ≠ close := by
      rcases hclose with rfl | rfl
      · exact square
      · exact curly
    rw [List.cons_append]
    dsimp only
    rw [if_neg other]
    refine reaches_readEntries accepts opens hclose hseries ?_ [] rest
    simp only [List.length_append, List.length_cons]
    omega

end

/-! ## Values -/

theorem opens_isString : Opens IsString := by
  rintro w ⟨pieces, -, rfl⟩
  exact ⟨'\x22', _, rfl, by decide, by decide, by decide⟩

/-- The text starts with a character that is no gap, no quote and no bracket. -/
def StartsBare (w : RawText) : Prop :=
  ∃ c tail, w = .scalar c :: tail ∧
    c ∉ [' ', '\t', '\n', '\r', '\x22', '[', ']', '\x7b', '\x7d']

theorem startsBare_of_isNumber {w : RawText} (hw : IsNumber w) : StartsBare w := by
  obtain ⟨sign, whole, fraction, exponent, hsign, hwhole, -, -, rfl⟩ := hw
  rcases hsign with rfl | rfl
  · obtain ⟨c, tail, rfl, digit⟩ := hwhole.exists_cons
    have apart : ∀ d ∈ [' ', '\t', '\n', '\r', '\x22', '[', ']', '\x7b', '\x7d'],
        ¬ ('0' ≤ d ∧ d ≤ '9') := by simp
    exact ⟨c, _, rfl, fun h => apart c h digit⟩
  · exact ⟨'-', _, rfl, by decide⟩

theorem startsBare_of_isWord {w : RawText} (hw : IsWord w) : StartsBare w := by
  obtain ⟨word, hword, rfl⟩ := hw
  simp only [words, List.mem_cons, List.not_mem_nil, or_false] at hword
  rcases hword with rfl | rfl | rfl | rfl | rfl | rfl <;> exact ⟨_, _, rfl, by decide⟩

theorem opens_of_startsBare {rule : RawText → Prop} (h : ∀ w, rule w → StartsBare w) : Opens rule := by
  intro w hw
  obtain ⟨c, tail, rfl, hc⟩ := h w hw
  simp only [List.mem_cons, List.not_mem_nil, or_false, not_or] at hc
  exact ⟨c, tail, rfl, by simp [isGap, hc], by simp [hc], by simp [hc]⟩

theorem opens_isMember (rule : RawText → Prop) : Opens (IsMember rule) := by
  rintro w ⟨key, gap, gap', value, hkey, -, -, -, rfl⟩
  obtain ⟨c, tail, rfl, rest⟩ := opens_isString key hkey
  exact ⟨c, _, rfl, rest⟩

theorem opens_isValueWithin (levels : Nat) : Opens (IsValueWithin levels) := by
  intro w hw
  cases levels with
  | zero => exact absurd hw not_false
  | succ levels =>
    cases hw with
    | string h => exact opens_isString w h
    | number h => exact opens_of_startsBare (fun w => startsBare_of_isNumber) w h
    | word h => exact opens_of_startsBare (fun w => startsBare_of_isWord) w h
    | array h => exact ⟨'[', _, rfl, by decide, by decide, by decide⟩
    | object h => exact ⟨'\x7b', _, rfl, by decide, by decide, by decide⟩

theorem readMember_eq_bind {value : RawText → Except Stop (Json × RawText)}
    {body key afterKey tail : RawText}
    (hkey : readString (.scalar '\x22' :: body) = .ok (key, afterKey))
    (hcolon : skipGap afterKey = .scalar ':' :: tail) :
    readMember value (.scalar '\x22' :: body)
      = value (skipGap tail) >>= fun read => .ok ((key, read.1), read.2) := by
  simp only [readMember, hkey, bind, Except.bind, hcolon, pure, Except.pure]

theorem accepts_readMember {value : RawText → Except Stop (Json × RawText)} {rule : RawText → Prop}
    (accepts : Accepts value rule) (opens : Opens rule) :
    Accepts (readMember value) (IsMember rule) := by
  rintro w ⟨key, gap, gap', v, hkey, hgap, hgap', hv, rfl⟩ rest hrest
  obtain ⟨name, hname⟩ := exists_readString_of_isString hkey
    (gap ++ .scalar ':' :: (gap' ++ (v ++ rest)))
  obtain ⟨pieces, -, rfl⟩ := hkey
  have colon : skipGap (gap ++ .scalar ':' :: (gap' ++ (v ++ rest)))
      = .scalar ':' :: (gap' ++ (v ++ rest)) := by
    rw [hgap.skipGap_append]
    exact skipGap_cons (by decide) _
  simp only [List.append_assoc, List.cons_append] at hname ⊢
  rw [readMember_eq_bind hname colon, opens.skipGap_append hv hgap']
  exact (accepts v hv rest hrest).bind fun v' => reaches_ok (name, v') rest

/-- A value that starts with no quote and no bracket is a word or a number. -/
theorem readValue_of_startsBare (depth : Nat) {w : RawText} (h : StartsBare w) (rest : RawText) :
    readValue depth (w ++ rest) =
      match readWord? (w ++ rest) with
      | some (v, after) => .ok (v, after)
      | none => readNumber (w ++ rest) := by
  obtain ⟨c, tail, rfl, hc⟩ := h
  simp only [List.mem_cons, List.not_mem_nil, or_false, not_or] at hc
  rw [List.cons_append, readValue]
  all_goals first | rfl | simp [hc]

/-- The reader of values accepts values of any number of levels, whatever depth it has left. Induction
on the levels. -/
theorem accepts_readValue (levels depth : Nat) :
    Accepts (readValue depth) (IsValueWithin levels) := by
  induction levels generalizing depth with
  | zero => exact fun w hw => absurd hw not_false
  | succ levels ih =>
    have opens := opens_isValueWithin levels
    intro w hw rest hrest
    cases hw with
    | string h =>
      obtain ⟨s, hs⟩ := exists_readString_of_isString h rest
      obtain ⟨pieces, -, rfl⟩ := h
      rw [List.cons_append] at hs ⊢
      rw [readValue, hs]
      exact reaches_ok _ rest
    | number h =>
      rw [readValue_of_startsBare depth (startsBare_of_isNumber h), readWord?_of_isNumber h]
      exact reaches_readNumber h hrest
    | word h =>
      obtain ⟨v, hv⟩ := exists_readWord?_of_isWord h rest
      rw [readValue_of_startsBare depth (startsBare_of_isWord h), hv]
      exact reaches_ok v rest
    | @array t h =>
      rw [List.cons_append, List.append_assoc, List.singleton_append]
      cases depth with
      | zero => exact Or.inr ⟨_, rfl, trivial⟩
      | succ depth =>
        rw [readValue]
        have contents := reaches_readContents (ih depth) opens (Or.inl rfl) h rest
        exact contents.bind fun items => reaches_ok _ rest
    | @object t h =>
      rw [List.cons_append, List.append_assoc, List.singleton_append]
      cases depth with
      | zero => exact Or.inr ⟨_, rfl, trivial⟩
      | succ depth =>
        rw [readValue]
        have contents := reaches_readContents (accepts_readMember (ih depth) opens)
          (opens_isMember _) (Or.inr rfl) h rest
        exact contents.bind fun members => reaches_ok _ rest

/-- A text that is JSON by the rules is read, or goes beyond a limit of the reader. -/
theorem read_of_isDocument {t : RawText} (h : IsDocument t) :
    (∃ v, read t = .ok v) ∨ ∃ fault, read t = .error fault ∧ fault.IsLimit := by
  obtain ⟨levels, gap, w, gap', hgap, hw, hgap', rfl⟩ := h
  have opens := opens_isValueWithin levels
  have ends : EndsValue gap' := fun p hp => Or.inl ((isGap_iff p).2 (hgap' p (List.mem_of_mem_head? hp)))
  unfold read readText
  rw [opens.skipGap_append hw hgap]
  rcases accepts_readValue levels nestingLimit w hw gap' ends with ⟨v, hv⟩ | ⟨stop, hstop, limit⟩
  · have blank : skipGap gap' = [] := by
      rw [← List.append_nil gap', hgap'.skipGap_append]
      rfl
    rw [hv, ok_bind]
    dsimp only
    rw [blank]
    exact Or.inl ⟨v, rfl⟩
  · rw [hstop]
    exact Or.inr ⟨_, rfl, (Stop.isLimit_inText_iff _ stop).2 limit⟩

/-- A departure is found in the texts that are no JSON, and in no others, as long as no limit is in the
way. -/
theorem departs_iff (t : RawText) :
    (∃ wanted position line column, read t = .error (.departure wanted position line column)) ↔
      ¬ IsDocument t ∧ ¬ ∃ fault, read t = .error fault ∧ fault.IsLimit := by
  cases hread : read t with
  | ok v =>
    have document := isDocument_of_read hread
    simp [document]
  | error fault =>
    have document : IsDocument t → fault.IsLimit := fun h => by
      rcases read_of_isDocument h with ⟨v, hv⟩ | ⟨fault', h', limit⟩
      · cases hread.symm.trans hv
      · cases hread.symm.trans h'
        exact limit
    cases fault with
    | departure wanted position line column =>
      refine iff_of_true ⟨wanted, position, line, column, rfl⟩ ⟨document, ?_⟩
      rintro ⟨fault', h', limit⟩
      cases h'
      exact limit
    | digits count => simp [Fault.IsLimit]
    | nesting container => simp [Fault.IsLimit]

end GraphScribe.Json
