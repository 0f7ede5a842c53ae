import GraphScribe.Encoding.Utf8
import GraphScribe.Encoding.Wide

/-!
# The encoding of a JSON body

A body does not name its encoding. A byte order mark decides; without one, the first two characters
of JSON are plain, so the zero octets among the first four tell the width and the order of the units.
-/

namespace GraphScribe

inductive Encoding where
  | utf8
  | utf16 (order : OctetOrder)
  | utf32 (order : OctetOrder)
  deriving DecidableEq

namespace Encoding

/-- The encoding that a byte order mark announces, and the octets after the mark. -/
def ofMark? : List UInt8 → Option (Encoding × List UInt8)
  | 0x00 :: 0x00 :: 0xFE :: 0xFF :: rest => some (utf32 .big, rest)
  | 0xFF :: 0xFE :: 0x00 :: 0x00 :: rest => some (utf32 .little, rest)
  | 0xFE :: 0xFF :: rest => some (utf16 .big, rest)
  | 0xFF :: 0xFE :: rest => some (utf16 .little, rest)
  | 0xEF :: 0xBB :: 0xBF :: rest => some (utf8, rest)
  | _ => none

/-- The encoding that the zero octets at the start point to. -/
def ofZeros : List UInt8 → Encoding
  | [a, b] => if a = 0 then utf16 .big else if b = 0 then utf16 .little else utf8
  | a :: b :: c :: d :: _ =>
    if a = 0 then (if b = 0 then utf32 .big else utf16 .big)
    else if b = 0 then (if c = 0 ∧ d = 0 then utf32 .little else utf16 .little)
    else utf8
  | _ => utf8

/-- The encoding of a body, and its octets without the byte order mark. -/
def detect (octets : List UInt8) : Encoding × List UInt8 :=
  (ofMark? octets).getD (ofZeros octets, octets)

def decode? : Encoding → List UInt8 → Option RawText
  | utf8, octets => (Utf8.decode .lenient octets).toOption
  | utf16 order, octets => Wide.decode16? order octets
  | utf32 order, octets => Wide.decode32? order octets

end Encoding

/-- The code points of a JSON body, if it can be decoded. -/
def decodeBody? (octets : List UInt8) : Option RawText :=
  let (encoding, content) := Encoding.detect octets
  encoding.decode? content

end GraphScribe
