import GraphScribe.Text.Basic

/-!
# Hexadecimal digits

Numbers written with a fixed count of small hexadecimal digits. Main statement: reading what was
written gives the number back (`hexValue?_hexDigits`).
-/

namespace GraphScribe

/-- The hexadecimal digit of a number below 16. -/
def hexDigit (n : Nat) : Char := if n < 10 then Char.ofNat (48 + n) else Char.ofNat (87 + n)

/-- The last `width` hexadecimal digits of `n`. -/
def hexDigits (width n : Nat) : Text :=
  match width with
  | 0 => []
  | w + 1 => hexDigits w (n / 16) ++ [hexDigit (n % 16)]

/-- The value of a hexadecimal digit, small or capital. -/
def hexDigitValue? (c : Char) : Option Nat :=
  if '0' ≤ c ∧ c ≤ '9' then some (c.toNat - 48)
  else if 'a' ≤ c ∧ c ≤ 'f' then some (c.toNat - 87)
  else if 'A' ≤ c ∧ c ≤ 'F' then some (c.toNat - 55)
  else none

/-- The number that some hexadecimal digits denote, continuing from `start`. -/
def hexValueFrom? (start : Nat) : Text → Option Nat
  | [] => some start
  | c :: rest => (hexDigitValue? c).bind fun d => hexValueFrom? (start * 16 + d) rest

/-- The number that some hexadecimal digits denote. -/
def hexValue? (digits : Text) : Option Nat := hexValueFrom? 0 digits

theorem hexDigitValue?_hexDigit (n : Nat) (h : n < 16) : hexDigitValue? (hexDigit n) = some n := by
  have all : ∀ i : Fin 16, hexDigitValue? (hexDigit i) = some i.val := by decide
  exact all ⟨n, h⟩

theorem hexValueFrom?_append (s t : Text) (start : Nat) :
    hexValueFrom? start (s ++ t) = (hexValueFrom? start s).bind fun m => hexValueFrom? m t := by
  induction s generalizing start with
  | nil => rfl
  | cons c rest ih =>
    simp only [List.cons_append, hexValueFrom?]
    cases hexDigitValue? c with
    | none => rfl
    | some d => simp only [Option.bind_some, ih]

theorem hexValueFrom?_hexDigits (width n start : Nat) (h : n < Nat.pow 16 width) :
    hexValueFrom? start (hexDigits width n) = some (start * Nat.pow 16 width + n) := by
  induction width generalizing n start with
  | zero =>
    have none_left : n = 0 := Nat.lt_one_iff.mp h
    rw [none_left]
    show some start = some (start * 1 + 0)
    rw [Nat.mul_one, Nat.add_zero]
  | succ w ih =>
    have grown : Nat.pow 16 (w + 1) = Nat.pow 16 w * 16 := rfl
    rw [grown] at h ⊢
    have small : n / 16 < Nat.pow 16 w := (Nat.div_lt_iff_lt_mul (by omega)).mpr h
    rw [hexDigits, hexValueFrom?_append, ih _ _ small]
    simp only [Option.bind_some, hexValueFrom?, hexDigitValue?_hexDigit _ (Nat.mod_lt n (by omega))]
    congr 1
    have split := Nat.div_add_mod n 16
    rw [Nat.add_mul, Nat.mul_assoc]
    omega

theorem hexValue?_hexDigits (width n : Nat) (h : n < Nat.pow 16 width) :
    hexValue? (hexDigits width n) = some n := by
  rw [hexValue?, hexValueFrom?_hexDigits width n 0 h, Nat.zero_mul, Nat.zero_add]

end GraphScribe
