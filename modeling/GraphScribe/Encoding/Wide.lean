import GraphScribe.Text.Point

/-!
# UTF-16 and UTF-32

Texts in units of two or four octets, in either order of octets. Surrogates that form no pair are
let through as lone halves; a unit that is cut off, or that numbers no code point, is refused.
-/

namespace GraphScribe

/-- Which octet of a unit comes first. -/
inductive OctetOrder where
  | big
  | little
  deriving DecidableEq

/-- The number that the octets of one unit make up. -/
def OctetOrder.value (order : OctetOrder) (octets : List UInt8) : Nat :=
  let inOrder := match order with
    | .big => octets
    | .little => octets.reverse
  inOrder.foldl (fun n octet => n * 256 + octet.toNat) 0

/-- Is the unit the first half of a surrogate pair? -/
def isHighHalf (unit : Nat) : Bool := 0xD800 ≤ unit && unit < 0xDC00

/-- Is the unit the second half of a surrogate pair? -/
def isLowHalf (unit : Nat) : Bool := 0xDC00 ≤ unit && unit < 0xE000

/-- The code point that a surrogate pair stands for. -/
def joinHalves (high low : Nat) : Point := Point.ofNat (0x10000 + (high - 0xD800) * 0x400 + (low - 0xDC00))

namespace Wide

/-- The two-octet units of some octets, after the units `done`, last first. -/
def pairUnits (order : OctetOrder) (done : List Nat) : List UInt8 → Option (List Nat)
  | [] => some done.reverse
  | a :: b :: rest => pairUnits order (order.value [a, b] :: done) rest
  | [_] => none

/-- The code points of two-octet units, after the code points `done`, last first. -/
def joinUnits (done : RawText) : List Nat → RawText
  | [] => done.reverse
  | high :: low :: rest =>
    if isHighHalf high && isLowHalf low then joinUnits (joinHalves high low :: done) rest
    else joinUnits (Point.ofNat high :: done) (low :: rest)
  | [unit] => (Point.ofNat unit :: done).reverse

def decode16? (order : OctetOrder) (octets : List UInt8) : Option RawText :=
  (pairUnits order [] octets).map (joinUnits [])

/-- Decodes UTF-32, after the code points `done`, last first. -/
def decode32From? (order : OctetOrder) (done : RawText) : List UInt8 → Option RawText
  | [] => some done.reverse
  | a :: b :: c :: d :: rest =>
    let n := order.value [a, b, c, d]
    if n < 0x110000 then decode32From? order (Point.ofNat n :: done) rest else none
  | _ => none

def decode32? (order : OctetOrder) (octets : List UInt8) : Option RawText :=
  decode32From? order [] octets

end Wide

end GraphScribe
