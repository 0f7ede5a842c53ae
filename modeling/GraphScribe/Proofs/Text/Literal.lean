import GraphScribe.Text.Lines
import GraphScribe.Text.Quoted
import Mathlib.Tactic.ByContra

/-!
# Literals read back

The reader of literals undoes the writer, whatever stands behind the literal
(`readQuoted_quoted_append`), so that a literal ends where it was meant to end and two texts never
share one. A literal stays on its line (`not_isLineBreak_of_mem_quoted`).
-/

namespace GraphScribe

/-! ## Escapes -/

theorem length_hexDigits (width n : Nat) : (hexDigits width n).length = width := by
  induction width generalizing n with
  | zero => rfl
  | succ w ih => rw [hexDigits, List.length_append, ih, List.length_singleton]

/-- The digits of a character's number are read as that character. -/
theorem readHexChar_hexDigits (width : Nat) (c : Char) (rest : Text)
    (h : c.toNat < Nat.pow 16 width) :
    readHexChar width (hexDigits width c.toNat ++ rest) = some (c, rest) := by
  have front : (hexDigits width c.toNat ++ rest).take width = hexDigits width c.toNat :=
    List.take_left' (length_hexDigits width c.toNat)
  have back : (hexDigits width c.toNat ++ rest).drop width = rest :=
    List.drop_left' (length_hexDigits width c.toNat)
  unfold readHexChar
  dsimp only
  rw [front, back, if_pos (length_hexDigits width c.toNat), hexValue?_hexDigits width _ h,
    Option.map_some, Char.ofNat_toNat]

/-- A quote that a literal may be written in. -/
def IsQuote (quote : Char) : Prop := quote = '\x27' ∨ quote = '\x22'

theorem isQuote_quoteFor (t : Text) : IsQuote (quoteFor t) := by
  unfold quoteFor
  split
  · exact Or.inr rfl
  · exact Or.inl rfl

theorem readQuotedChar_plain {quote c : Char} (rest : Text) (hquote : c ≠ quote) (hslash : c ≠ '\\')
    (hfeed : c ≠ '\n') (hreturn : c ≠ '\r') :
    readQuotedChar quote (c :: rest) = some (some c, rest) := by
  unfold readQuotedChar
  split
  all_goals simp_all

/-- What is written for one character is read as that character. -/
theorem readQuotedChar_quotedChar {quote : Char} (hquote : IsQuote quote) (c : Char) (rest : Text) :
    readQuotedChar quote (quotedChar quote c ++ rest) = some (some c, rest) := by
  unfold quotedChar
  by_cases hescaped : c = quote ∨ c = '\\'
  · rw [if_pos hescaped]
    rcases hescaped with rfl | rfl
    · rcases hquote with rfl | rfl <;> rfl
    · rfl
  rw [if_neg hescaped]
  rw [not_or] at hescaped
  by_cases htab : c = '\t'
  · rw [if_pos htab, htab]
    rfl
  rw [if_neg htab]
  by_cases hfeed : c = '\n'
  · rw [if_pos hfeed, hfeed]
    rfl
  rw [if_neg hfeed]
  by_cases hreturn : c = '\r'
  · rw [if_pos hreturn, hreturn]
    rfl
  rw [if_neg hreturn]
  -- what is left: the character itself where it is printable, and its number otherwise
  split
  · exact readQuotedChar_plain rest hescaped.1 hescaped.2 hfeed hreturn
  split
  · next hsmall =>
    show (readHexChar 2 (hexDigits 2 c.toNat ++ rest)).map _ = _
    rw [readHexChar_hexDigits 2 c rest hsmall]
    rfl
  split
  · next hsmall =>
    show (readHexChar 4 (hexDigits 4 c.toNat ++ rest)).map _ = _
    rw [readHexChar_hexDigits 4 c rest hsmall]
    rfl
  · show (readHexChar 8 (hexDigits 8 c.toNat ++ rest)).map _ = _
    have hsmall : c.toNat < Nat.pow 16 8 := UInt32.toNat_lt c.val
    rw [readHexChar_hexDigits 8 c rest hsmall]
    rfl

theorem readQuotedChar_close {quote : Char} (hquote : IsQuote quote) (rest : Text) :
    readQuotedChar quote (quote :: rest) = some (none, rest) := by
  rcases hquote with rfl | rfl <;> rfl

/-! ## Literals -/

theorem quotedChar_ne_nil (quote c : Char) : quotedChar quote c ≠ [] := by
  unfold quotedChar
  repeat' split
  all_goals simp

theorem length_le_length_flatMap_quotedChar (quote : Char) (t : Text) :
    t.length ≤ (t.flatMap (quotedChar quote)).length := by
  induction t with
  | nil => exact Nat.le_refl 0
  | cons c t ih =>
    have one : 0 < (quotedChar quote c).length := List.length_pos_iff.2 (quotedChar_ne_nil quote c)
    rw [List.flatMap_cons, List.length_append, List.length_cons]
    omega

/-- The characters of a text and the closing quote are read back. Induction on the text; each
character costs one unit of fuel, and so does the quote. -/
theorem readQuotedFrom_flatMap {quote : Char} (hquote : IsQuote quote) (t rest : Text) (fuel : Nat)
    (enough : t.length < fuel) :
    readQuotedFrom quote fuel (t.flatMap (quotedChar quote) ++ quote :: rest) = some (t, rest) := by
  induction t generalizing fuel with
  | nil =>
    cases fuel with
    | zero => exact absurd enough (Nat.not_lt_zero _)
    | succ fuel =>
      rw [readQuotedFrom, List.flatMap_nil, List.nil_append, readQuotedChar_close hquote]
  | cons c t ih =>
    cases fuel with
    | zero => exact absurd enough (Nat.not_lt_zero _)
    | succ fuel =>
      rw [readQuotedFrom, List.flatMap_cons, List.append_assoc, readQuotedChar_quotedChar hquote]
      dsimp only
      rw [ih fuel (Nat.lt_of_succ_lt_succ enough)]
      rfl

/-- A literal is read as the text it was written for, and up to its last character, whatever
follows it. -/
theorem readQuoted_quoted_append (t rest : Text) :
    readQuoted (quoted t ++ rest) = some (t, rest) := by
  have hquote := isQuote_quoteFor t
  have whole : quoted t ++ rest
      = quoteFor t :: (t.flatMap (quotedChar (quoteFor t)) ++ quoteFor t :: rest) := by
    unfold quoted
    simp
  have enough := length_le_length_flatMap_quotedChar (quoteFor t) t
  rw [whole, readQuoted, if_pos (show quoteFor t = '\x27' ∨ quoteFor t = '\x22' from hquote)]
  apply readQuotedFrom_flatMap hquote
  rw [List.length_append, List.length_cons]
  omega

theorem readQuoted_quoted (t : Text) : readQuoted (quoted t) = some (t, []) := by
  have := readQuoted_quoted_append t []
  rwa [List.append_nil] at this

theorem quoted_injective : Function.Injective quoted := by
  intro s t h
  have := readQuoted_quoted s
  rw [h, readQuoted_quoted] at this
  injection this with this
  exact (Prod.mk.inj this).1.symm

/-! ## Literals on one line -/

/-- The characters that end a line have no visible form. -/
theorem not_isLineBreak_of_isPrintable {c : Char} (h : isPrintable c = true) :
    Text.isLineBreak c = false := by
  have lineSeparator : inRanges unprintableRanges 0x2028 = true := by decide +kernel
  have paragraphSeparator : inRanges unprintableRanges 0x2029 = true := by decide +kernel
  have nextLine : inRanges unprintableRanges 0x85 = true := by decide +kernel
  by_contra hbreak
  rw [Bool.not_eq_false] at hbreak
  unfold Text.isLineBreak at hbreak
  simp only [Bool.or_eq_true, Bool.and_eq_true, decide_eq_true_eq, beq_iff_eq] at hbreak
  unfold isPrintable at h
  split at h
  · simp only [Bool.and_eq_true, decide_eq_true_eq] at h
    omega
  · next hlarge =>
    -- the three line ends beyond the first 128 characters are in the table
    have number : c.toNat = 0x85 ∨ c.toNat = 0x2028 ∨ c.toNat = 0x2029 := by omega
    rcases number with number | number | number
    · rw [number, nextLine] at h
      exact Bool.noConfusion h
    · rw [number, lineSeparator] at h
      exact Bool.noConfusion h
    · rw [number, paragraphSeparator] at h
      exact Bool.noConfusion h

theorem not_isLineBreak_of_mem_hexDigits {width n : Nat} {c : Char} (h : c ∈ hexDigits width n) :
    Text.isLineBreak c = false := by
  have digit : ∀ i : Fin 16, Text.isLineBreak (hexDigit i) = false := by decide
  induction width generalizing n with
  | zero => exact absurd h List.not_mem_nil
  | succ w ih =>
    rw [hexDigits, List.mem_append, List.mem_singleton] at h
    rcases h with h | rfl
    · exact ih h
    · exact digit ⟨n % 16, Nat.mod_lt n (by omega)⟩

theorem not_isLineBreak_of_mem_quotedChar {quote : Char} (hquote : IsQuote quote) {c d : Char}
    (h : d ∈ quotedChar quote c) : Text.isLineBreak d = false := by
  have hquoteBreak : Text.isLineBreak quote = false := by
    rcases hquote with rfl | rfl <;> decide
  have escape : ∀ {d : Char} {letter : Char} {digits : Text}, Text.isLineBreak letter = false →
      (∀ e ∈ digits, Text.isLineBreak e = false) → d ∈ '\\' :: letter :: digits →
      Text.isLineBreak d = false := by
    intro d letter digits hletter hdigits hd
    rcases List.mem_cons.1 hd with rfl | hd
    · decide
    rcases List.mem_cons.1 hd with rfl | hd
    · exact hletter
    · exact hdigits d hd
  unfold quotedChar at h
  split at h
  · next hescaped =>
    refine escape ?_ (by simp) h
    rcases hescaped with rfl | rfl
    · exact hquoteBreak
    · decide
  split at h
  · exact escape (by decide) (by simp) h
  split at h
  · exact escape (by decide) (by simp) h
  split at h
  · exact escape (by decide) (by simp) h
  split at h
  · next hprintable =>
    rw [List.mem_singleton] at h
    exact h ▸ not_isLineBreak_of_isPrintable hprintable
  split at h
  · exact escape (by decide) (fun _ => not_isLineBreak_of_mem_hexDigits) h
  split at h
  · exact escape (by decide) (fun _ => not_isLineBreak_of_mem_hexDigits) h
  · exact escape (by decide) (fun _ => not_isLineBreak_of_mem_hexDigits) h

/-- A literal holds no character that ends a line, whatever its text holds. -/
theorem not_isLineBreak_of_mem_quoted {t : Text} {c : Char} (h : c ∈ quoted t) :
    Text.isLineBreak c = false := by
  have hquote := isQuote_quoteFor t
  have hquoteBreak : Text.isLineBreak (quoteFor t) = false := by
    rcases hquote with hq | hq <;> rw [hq] <;> decide
  unfold quoted at h
  dsimp only at h
  rw [List.mem_append, List.mem_cons, List.mem_singleton] at h
  rcases h with (rfl | h) | rfl
  · exact hquoteBreak
  · obtain ⟨d, -, hd⟩ := List.mem_flatMap.1 h
    exact not_isLineBreak_of_mem_quotedChar hquote hd
  · exact hquoteBreak

end GraphScribe
