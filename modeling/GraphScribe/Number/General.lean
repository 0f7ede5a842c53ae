import GraphScribe.Number.Binary64

/-!
# Six significant digits

The shortest readable form of a number with six significant digits: positional from 0.0001 up to
999999, with an exponent of at least two digits outside that range, and without trailing zeros.
-/

namespace GraphScribe.Binary64

/-- The decimal exponent of a positive quotient: the place of its first digit. -/
def decimalExponent (num den : Nat) : Int :=
  if den ≤ num then
    match (List.range 400).find? fun k => num < den * Nat.pow 10 (k + 1) with
    | some k => k
    | none => 400
  else
    match (List.range 400).find? fun k => den ≤ num * Nat.pow 10 k with
    | some k => -k
    | none => -400

/-- A text without the zeros at its end. -/
def dropTrailingZeros (t : Text) : Text := (t.reverse.dropWhile (· == '0')).reverse

/-- The digits after the point, with the point, if any of them is not zero. -/
def fraction (digits : Text) : Text :=
  match dropTrailingZeros digits with
  | [] => []
  | kept => '.' :: kept

/-- A decimal exponent: its sign and at least two digits. -/
def exponentPart (exponent : Int) : Text :=
  let size := decimal exponent.natAbs
  'e' :: (if exponent < 0 then '-' else '+') :: (if size.length < 2 then '0' :: size else size)

/-- A positive quotient with six significant digits. -/
def generalQuotient (num den : Nat) : Text :=
  let exponent := decimalExponent num den
  let shift : Int := 5 - exponent
  let rounded := roundDiv (num * Nat.pow 10 shift.toNat) (den * Nat.pow 10 (-shift).toNat)
  let (rounded, exponent) := if rounded = 1000000 then (100000, exponent + 1) else (rounded, exponent)
  let digits := decimal rounded
  if exponent < -4 ∨ 6 ≤ exponent then
    digits.take 1 ++ fraction (digits.drop 1) ++ exponentPart exponent
  else if exponent < 0 then
    '0' :: fraction (List.replicate (-exponent - 1).toNat '0' ++ digits)
  else
    digits.take (exponent.toNat + 1) ++ fraction (digits.drop (exponent.toNat + 1))

def general (x : Binary64) : Text :=
  let signed (negative : Bool) (t : Text) : Text := if negative then '-' :: t else t
  match x with
  | nan _ => "nan".toList
  | infinite negative => signed negative "inf".toList
  | finite negative significand exponent =>
    signed negative <|
      if significand = 0 then ['0']
      else generalQuotient (significand * Nat.pow 2 exponent.toNat) (Nat.pow 2 (-exponent).toNat)

end GraphScribe.Binary64
