import GraphScribe.Text.Hex

/-!
# Binary floating point numbers of 64 bits

A finite number is a significand times a power of two, held in its canonical form. Decimal
quantities are rounded to the nearest number, a tie going to the even significand; all arithmetic
is exact on natural numbers.
-/

namespace GraphScribe

/-- A binary64 number. A finite one is `±significand · 2 ^ exponent`. -/
inductive Binary64 where
  | nan (negative : Bool)
  | infinite (negative : Bool)
  | finite (negative : Bool) (significand : Nat) (exponent : Int)
  deriving DecidableEq, Inhabited

/-- The quotient rounded to the nearest whole number, a tie to the even one. -/
def roundDiv (num den : Nat) : Nat :=
  let quotient := num / den
  let rest := num % den
  if 2 * rest < den then quotient
  else if den < 2 * rest then quotient + 1
  else quotient + quotient % 2

namespace Binary64

def precision : Nat := 53

def leastExponent : Int := -1074

def greatestExponent : Int := 971

/-- The quotient divided by `2 ^ exponent` and rounded. -/
def significandAt (num den : Nat) (exponent : Int) : Nat :=
  roundDiv (num * Nat.pow 2 (-exponent).toNat) (den * Nat.pow 2 exponent.toNat)

/-- The exponent at which a positive quotient has `precision` bits before the point, or the least
exponent if that is greater. -/
def exponentFor (num den : Nat) : Int :=
  let guess : Int := (num.log2 : Int) - den.log2 - precision
  let reach := den * Nat.pow 2 guess.toNat * Nat.pow 2 precision
  let exponent := if reach ≤ num * Nat.pow 2 (-guess).toNat then guess + 1 else guess
  max exponent leastExponent

/-- The number nearest to `num / den`. -/
def ofQuotient (negative : Bool) (num den : Nat) : Binary64 :=
  if num = 0 then finite negative 0 leastExponent
  else
    let exponent := exponentFor num den
    let significand := significandAt num den exponent
    let (significand, exponent) :=
      if significand = Nat.pow 2 precision then (Nat.pow 2 (precision - 1), exponent + 1)
      else (significand, exponent)
    if greatestExponent < exponent then infinite negative
    else finite negative significand exponent

/-- The number nearest to `digits · 10 ^ power`. Powers so far out that the outcome is plain are
answered without computing them. -/
def ofDecimal (negative : Bool) (digits : Nat) (power : Int) : Binary64 :=
  if digits = 0 then finite negative 0 leastExponent
  else if 400 < power then infinite negative
  else if power + digits.log2 + 1 < -400 then finite negative 0 leastExponent
  else ofQuotient negative (digits * Nat.pow 10 power.toNat) (Nat.pow 10 (-power).toNat)

def ofNat (n : Nat) : Binary64 := ofDecimal false n 0

/-- Is the number above zero? A NaN is not. -/
def isPositive : Binary64 → Bool
  | nan _ => false
  | infinite negative => !negative
  | finite negative significand _ => !negative && significand != 0

/-- Is the number zero or below? A NaN is not. -/
def isAtMostZero : Binary64 → Bool
  | nan _ => false
  | infinite negative => negative
  | finite negative significand _ => negative || significand == 0

/-! ## The interchange format -/

/-- The number of bits of a significand that are written; the first one follows from the rest. -/
def writtenPrecision : Nat := precision - 1

/-- The least significand of a number that has all its bits. -/
def leastFull : Nat := Nat.pow 2 writtenPrecision

/-- The exponent field of the numbers that are not finite. -/
def exponentFieldOfInfinite : Nat := 2047

/-- The 64 bits of the number, as a natural number: its sign, its exponent and its significand. -/
def bits (x : Binary64) : Nat :=
  let sign (negative : Bool) : Nat := if negative then Nat.pow 2 63 else 0
  match x with
  | nan negative => sign negative + exponentFieldOfInfinite * leastFull + leastFull / 2
  | infinite negative => sign negative + exponentFieldOfInfinite * leastFull
  | finite negative significand exponent =>
    if significand < leastFull then sign negative + significand
    else
      let exponentField := (exponent - leastExponent + 1).toNat
      sign negative + exponentField * leastFull + (significand - leastFull)

/-- The 64 bits of the number in 16 hexadecimal digits. -/
def hex (x : Binary64) : Text := hexDigits 16 x.bits

end Binary64

end GraphScribe
