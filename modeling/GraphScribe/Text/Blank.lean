import GraphScribe.Text.Basic

/-!
# Blank characters and blank texts

The blank characters are those of the Unicode property `White_Space` together with the four
separator controls U+001C to U+001F.
-/

namespace GraphScribe

/-- Is `c` a blank: a space, a tab, a line end or a separator of any script? -/
def isBlankChar (c : Char) : Bool :=
  let n := c.toNat
  (0x09 ≤ n && n ≤ 0x0D) || (0x1C ≤ n && n ≤ 0x20) || n == 0x85 || n == 0xA0 || n == 0x1680
    || (0x2000 ≤ n && n ≤ 0x200A) || n == 0x2028 || n == 0x2029 || n == 0x202F || n == 0x205F
    || n == 0x3000

namespace Text

/-- The text without the blanks at its two ends. -/
def trim (t : Text) : Text := trimBy isBlankChar t

/-- The text without the blanks at its end. -/
def trimEnd (t : Text) : Text := (t.reverse.dropWhile isBlankChar).reverse

/-- The text without one line feed at its end. -/
def dropFinalNewline (t : Text) : Text :=
  match t.reverse with
  | '\n' :: rest => rest.reverse
  | _ => t

/-- Does the text hold nothing but blanks? -/
def isBlank (t : Text) : Bool := t.all isBlankChar

theorem trim_eq_nil_iff (t : Text) : trim t = [] ↔ isBlank t = true := by
  constructor
  · intro h
    have parts := trimBy_append isBlankChar t
    rw [show trimBy isBlankChar t = [] from h, List.append_nil] at parts
    rw [isBlank, List.all_eq_true]
    intro c hc
    rw [parts, List.mem_append] at hc
    cases hc with
    | inl hfront => exact List.all_eq_true.1 (List.all_takeWhile) c hfront
    | inr hback => exact List.all_eq_true.1 (List.all_takeWhile) c (List.mem_reverse.1 hback)
  · intro h
    have none_left : t.dropWhile isBlankChar = [] := by
      induction t with
      | nil => rfl
      | cons c rest ih =>
        rw [isBlank, List.all_cons, Bool.and_eq_true] at h
        rw [List.dropWhile_cons, if_pos h.1]
        exact ih h.2
    simp [trim, trimBy, none_left]

end Text

end GraphScribe
