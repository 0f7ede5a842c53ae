import GraphScribe.Text.Blank
import GraphScribe.Number.Digit
import GraphScribe.Number.Binary64

/-!
# Numbers in a configuration value

How a number may be spelled by a person: blanks around it, a sign, digits of any script, single
underscores between digits. Whole numbers have a limit on their digits; other numbers may have a
fraction and an exponent, or be an infinity or a NaN by name.
-/

namespace GraphScribe.Numeral

/-! ## Plain spelling

Before it is read a numeral is brought to the first 128 characters. A text that is there already is
left alone; in any other one every blank becomes a space and every digit its plain form. -/

/-- A numeral spelled in the first 128 characters, if it can be. -/
def plain? (t : Text) : Option Text :=
  if t.all (fun c => c.toNat < 0x80) then some t
  else t.mapM fun c =>
    if c.toNat < 0x7F then some c
    else if isBlankChar c then some ' '
    else (digitValue? c).map fun d => Char.ofNat (48 + d)

/-- The blanks that may surround a plainly spelled numeral. -/
def isPadding (c : Char) : Bool := c == ' ' || (0x09 ≤ c.toNat && c.toNat ≤ 0x0D)

/-- The text without its underscores, if each of them stands between two digits. -/
def withoutUnderscores? (before : Char) : Text → Option Text
  | [] => if before = '_' then none else some []
  | c :: rest =>
    if c = '_' then
      if isDigit before then withoutUnderscores? c rest else none
    else if before = '_' ∧ ¬ isDigit c then none
    else (withoutUnderscores? c rest).map (c :: ·)

/-- The text after an optional sign, and whether the sign is a minus. -/
def splitSign : Text → Bool × Text
  | '-' :: rest => (true, rest)
  | '+' :: rest => (false, rest)
  | t => (false, t)

/-- The number that plain digits denote, read one after the other. -/
def shortDigitsValue (digits : Text) : Nat := digits.foldl (fun n c => n * 10 + (c.toNat - 48)) 0

/-- The number that plain digits denote. Long digits are read in two halves, and these in halves
again for some rounds, which changes nothing but keeps the numbers small. -/
def digitsValueBy (rounds : Nat) (digits : Text) : Nat :=
  match rounds with
  | 0 => shortDigitsValue digits
  | rounds + 1 =>
    if digits.length < 64 then shortDigitsValue digits
    else
      let low := digits.length / 2
      let (front, back) := digits.splitAt (digits.length - low)
      digitsValueBy rounds front * Nat.pow 10 low + digitsValueBy rounds back

def digitsValue (digits : Text) : Nat := digitsValueBy digits.length.log2 digits

/-- A numeral ready to be read: plain, unpadded, its underscores checked and gone. -/
def normal? (t : Text) : Option Text := do
  withoutUnderscores? ' ' (trimBy isPadding (← plain? t))

/-! ## Whole numbers -/

/-- The most digits a whole number may be written with. -/
def digitLimit : Nat := 4300

/-- The whole number that a text spells, if it does. -/
def integer? (t : Text) : Option Int := do
  let (negative, digits) := splitSign (← normal? t)
  if digits.isEmpty || !digits.all isDigit || digitLimit < digits.length then none
  else
    let n : Int := digitsValue digits
    some (if negative then -n else n)

/-! ## Numbers with a fraction and an exponent -/

/-- Reads an exponent that makes up the whole text; the empty text stands for none. -/
def exponent? : Text → Option Int
  | [] => some 0
  | e :: rest =>
    if e = 'e' ∨ e = 'E' then
      let (negative, digits) := splitSign rest
      if digits.isEmpty || !digits.all isDigit then none
      else
        let n : Int := digitsValue digits
        some (if negative then -n else n)
    else none

/-- Reads digits with an optional point among them and an optional exponent after them. -/
def decimal? (negative : Bool) (t : Text) : Option Binary64 :=
  let whole := t.takeWhile isDigit
  let rest := t.dropWhile isDigit
  let (part, tail) := match rest with
    | '.' :: after => (after.takeWhile isDigit, after.dropWhile isDigit)
    | _ => ([], rest)
  if whole.isEmpty && part.isEmpty then none
  else (exponent? tail).map fun exponent =>
    Binary64.ofDecimal negative (digitsValue (whole ++ part)) (exponent - part.length)

/-- The number that a text spells, if it does. -/
def binary64? (t : Text) : Option Binary64 := do
  let (negative, body) := splitSign (← normal? t)
  let name := body.map Char.toLower
  if name = "inf".toList ∨ name = "infinity".toList then some (.infinite negative)
  else if name = "nan".toList then some (.nan negative)
  else decimal? negative body

end GraphScribe.Numeral
