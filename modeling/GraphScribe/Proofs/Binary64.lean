import Mathlib.Algebra.Order.Field.Rat
import Mathlib.Tactic.Positivity
import GraphScribe.Number.Binary64

/-!
# Numbers above zero, and what is no number

The value of a finite number is a rational one; by it the two tests of the sign are tests of the order
(`Binary64.isPositive_iff`, `Binary64.isAtMostZero_iff`). A number that is neither above zero nor at most
zero is a NaN (`Binary64.aboveZero_iff`), and rounding never makes one (`Binary64.ofDecimal_ne_nan`).
-/

namespace GraphScribe.Binary64

/-! ## Order -/

/-- The value of a finite number. -/
def value? : Binary64 → Option ℚ
  | nan _ => none
  | infinite _ => none
  | finite negative significand exponent =>
    some (if negative then -(significand * 2 ^ exponent) else significand * 2 ^ exponent)

/-- The number is greater than zero. A NaN is not. -/
def AboveZero (x : Binary64) : Prop := x = infinite false ∨ ∃ q, x.value? = some q ∧ 0 < q

/-- The number is zero or less. A NaN is not. -/
def AtMostZero (x : Binary64) : Prop := x = infinite true ∨ ∃ q, x.value? = some q ∧ q ≤ 0

/-- The sign of a value is that of the number, unless its significand is zero. -/
theorem pos_iff_of_sign (negative : Bool) (significand : Nat) (exponent : Int) :
    0 < (if negative then -((significand : ℚ) * 2 ^ exponent) else significand * 2 ^ exponent) ↔
      negative = false ∧ significand ≠ 0 := by
  have scale : (0 : ℚ) < 2 ^ exponent := zpow_pos (by norm_num) exponent
  cases negative with
  | true =>
    have low : (0 : ℚ) ≤ significand * 2 ^ exponent := by positivity
    rw [if_pos rfl, neg_pos]
    exact ⟨fun h => absurd low (not_le.2 h), fun h => nomatch h.1⟩
  | false =>
    rw [if_neg Bool.false_ne_true, mul_pos_iff_of_pos_right scale, Nat.cast_pos,
      Nat.pos_iff_ne_zero]
    exact (and_iff_right rfl).symm

theorem isPositive_iff (x : Binary64) : x.isPositive = true ↔ x.AboveZero := by
  unfold AboveZero
  cases x with
  | nan => simp [isPositive, value?]
  | infinite negative => simp [isPositive, value?]
  | finite negative significand exponent =>
    have sign := pos_iff_of_sign negative significand exponent
    simp [isPositive, value?, sign]

theorem isAtMostZero_iff (x : Binary64) : x.isAtMostZero = true ↔ x.AtMostZero := by
  unfold AtMostZero
  cases x with
  | nan => simp [isAtMostZero, value?]
  | infinite negative => simp [isAtMostZero, value?]
  | finite negative significand exponent =>
    have sign := pos_iff_of_sign negative significand exponent
    simp [isAtMostZero, value?, ← not_lt, sign, or_iff_not_imp_left]

/-- What is not at most zero is above zero, unless it is no number. -/
theorem aboveZero_iff (x : Binary64) :
    x.AboveZero ↔ ¬ x.AtMostZero ∧ ∀ negative, x ≠ nan negative := by
  rw [← isPositive_iff, ← isAtMostZero_iff]
  cases x with
  | nan negative => simp [isPositive]
  | infinite negative => simp [isPositive, isAtMostZero]
  | finite negative significand exponent => simp [isPositive, isAtMostZero]

/-! ## Rounded quantities -/

/-- A significand with its exponent is a number or too large for one, whichever of two it is. -/
theorem bounded_ne_nan (negative negative' : Bool) {c : Prop} [Decidable c] (p q : Nat × Int) :
    (match if c then p else q with
      | (significand, exponent) =>
        if greatestExponent < exponent then infinite negative
        else finite negative significand exponent) ≠ nan negative' := by
  generalize (if c then p else q) = chosen
  obtain ⟨significand, exponent⟩ := chosen
  dsimp only
  split
  · exact nofun
  · exact nofun

theorem ofQuotient_ne_nan (negative negative' : Bool) (num den : Nat) :
    ofQuotient negative num den ≠ nan negative' := by
  unfold ofQuotient
  by_cases hzero : num = 0
  · rw [if_pos hzero]
    exact nofun
  · rw [if_neg hzero]
    exact bounded_ne_nan negative negative' _ _

theorem ofDecimal_ne_nan (negative negative' : Bool) (digits : Nat) (power : Int) :
    ofDecimal negative digits power ≠ nan negative' := by
  unfold ofDecimal
  split
  · exact nofun
  · split
    · exact nofun
    · split
      · exact nofun
      · exact ofQuotient_ne_nan _ _ _ _

end GraphScribe.Binary64
