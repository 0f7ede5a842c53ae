import GraphScribe.Text.Hex
import GraphScribe.Text.Point

/-!
# UTF-8

Decoding is one pass of a small machine over the octets. Inside a sequence the machine knows where
it began, what its next octet may be, and how many are still to come, so the first octet that does
not fit is found where it stands, together with the octets of the sequence it breaks.
-/

namespace GraphScribe.Utf8

/-- Why octets are no UTF-8, and where: the positions of the first and the last octet at fault. -/
inductive Fault where
  | start (octet : UInt8) (position : Nat)
  | continuation (lead : UInt8) (first last : Nat)
  | truncated (lead : UInt8) (first last : Nat)
  deriving DecidableEq

/-- Which halves of surrogate pairs are let through as lone halves. -/
inductive Mode where
  | strict
  | lenient
  deriving DecidableEq

/-- A sequence that has begun: its first octet and position, the bits so far, how many octets are
to come, and the bounds of the next one. -/
structure Pending where
  lead : UInt8
  first : Nat
  bits : Nat
  missing : Nat
  least : UInt8
  greatest : UInt8

/-- The sequence that an octet above 0x7F begins, if it begins one. -/
def opening? (mode : Mode) (octet : UInt8) (position : Nat) : Option Pending :=
  let n := octet.toNat
  if 0xC2 ≤ n ∧ n ≤ 0xDF then some ⟨octet, position, n - 0xC0, 1, 0x80, 0xBF⟩
  else if n = 0xE0 then some ⟨octet, position, 0, 2, 0xA0, 0xBF⟩
  else if n = 0xED ∧ mode = .strict then some ⟨octet, position, n - 0xE0, 2, 0x80, 0x9F⟩
  else if 0xE1 ≤ n ∧ n ≤ 0xEF then some ⟨octet, position, n - 0xE0, 2, 0x80, 0xBF⟩
  else if n = 0xF0 then some ⟨octet, position, 0, 3, 0x90, 0xBF⟩
  else if 0xF1 ≤ n ∧ n ≤ 0xF3 then some ⟨octet, position, n - 0xF0, 3, 0x80, 0xBF⟩
  else if n = 0xF4 then some ⟨octet, position, 4, 3, 0x80, 0x8F⟩
  else none

/-- Decodes the octets from `position` on; `done` holds the code points before, last first. -/
def decodeFrom (mode : Mode) (position : Nat) (pending : Option Pending) (done : RawText) :
    List UInt8 → Except Fault RawText
  | [] =>
    match pending with
    | none => .ok done.reverse
    | some p => .error (.truncated p.lead p.first (position - 1))
  | octet :: rest =>
    match pending with
    | none =>
      if octet < 0x80 then
        decodeFrom mode (position + 1) none (.scalar (Char.ofNat octet.toNat) :: done) rest
      else match opening? mode octet position with
        | none => .error (.start octet position)
        | some p => decodeFrom mode (position + 1) (some p) done rest
    | some p =>
      if p.least ≤ octet ∧ octet ≤ p.greatest then
        let bits := p.bits * 64 + (octet.toNat - 0x80)
        if p.missing ≤ 1 then
          decodeFrom mode (position + 1) none (Point.ofNat bits :: done) rest
        else
          let next := { p with bits := bits, missing := p.missing - 1, least := 0x80, greatest := 0xBF }
          decodeFrom mode (position + 1) (some next) done rest
      else .error (.continuation p.lead p.first (position - 1))

/-- The code points that some octets encode. -/
def decode (mode : Mode) (octets : List UInt8) : Except Fault RawText :=
  decodeFrom mode 0 none [] octets

def encode (t : Text) : List UInt8 := t.flatMap String.utf8EncodeChar

namespace Fault

/-- The octets between two positions, in words. -/
def span (lead : UInt8) (first last : Nat) : String :=
  if first = last then s!"byte 0x{String.ofList (hexDigits 2 lead.toNat)} in position {first}"
  else s!"bytes in position {first}-{last}"

def message : Fault → String
  | start octet position =>
    s!"'utf-8' codec can't decode {span octet position position}: invalid start byte"
  | continuation lead first last =>
    s!"'utf-8' codec can't decode {span lead first last}: invalid continuation byte"
  | truncated lead first last =>
    s!"'utf-8' codec can't decode {span lead first last}: unexpected end of data"

end Fault

end GraphScribe.Utf8
