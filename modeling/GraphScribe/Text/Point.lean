import GraphScribe.Text.Blank

/-!
# Raw texts

A JSON string can denote something that is no text: one half of a surrogate pair standing alone. A
*raw text* is a list of code points in which such halves may occur. Every text is a raw text
(`rawOf`), and a raw text without lone halves is one (`text?`).
-/

namespace GraphScribe

/-- A code point: a character, or the half of a surrogate pair with the given index from U+D800. -/
inductive Point where
  | scalar (c : Char)
  | lone (half : Fin 2048)
  deriving DecidableEq, Inhabited

/-- A text in which lone halves of surrogate pairs may occur. -/
abbrev RawText := List Point

namespace Point

def code : Point → Nat
  | scalar c => c.toNat
  | lone half => 0xD800 + half

/-- The character that a code point is, if it is one. -/
def char? : Point → Option Char
  | scalar c => some c
  | lone _ => none

/-- Is the code point half of a surrogate pair? -/
def isLone : Point → Bool
  | scalar _ => false
  | lone _ => true

/-- The code point with the given number; numbers beyond the last one stand for U+FFFD. -/
def ofNat (n : Nat) : Point :=
  if h : 0xD800 ≤ n ∧ n < 0xE000 then lone ⟨n - 0xD800, by omega⟩
  else if n < 0x110000 then scalar (Char.ofNat n) else scalar '\ufffd'

/-- The number of octets of a code point in the encoding UTF-8, a lone half written like any other
code point of its size. -/
def octets : Point → Nat
  | scalar c => c.utf8Size
  | lone _ => 3

/-- Is the code point a blank character? -/
def isBlank : Point → Bool
  | scalar c => isBlankChar c
  | lone _ => false

end Point

def rawOf (t : Text) : RawText := t.map Point.scalar

namespace RawText

/-- The text that a raw text is, if it has no lone half. -/
def text? (raw : RawText) : Option Text := raw.mapM Point.char?

/-- The characters of a raw text, its lone halves left out. -/
def text (raw : RawText) : Text := raw.filterMap Point.char?

theorem text_rawOf (t : Text) : text (rawOf t) = t := by
  induction t with
  | nil => rfl
  | cons c rest ih =>
    rw [rawOf, List.map_cons, text, List.filterMap_cons]
    exact congrArg (c :: ·) ih

theorem text?_rawOf (t : Text) : text? (rawOf t) = some t := by
  induction t with
  | nil => rfl
  | cons c rest ih =>
    rw [rawOf, List.map_cons, text?, List.mapM_cons]
    simp only [Point.char?, Option.bind_eq_bind, Option.bind_some]
    rw [show List.mapM Point.char? (List.map Point.scalar rest) = some rest from ih]
    rfl

/-- A raw text that is a text is the raw form of that text. -/
theorem eq_rawOf_of_text? {raw : RawText} {t : Text} (h : text? raw = some t) : raw = rawOf t := by
  induction raw generalizing t with
  | nil =>
    rw [text?, List.mapM_nil] at h
    injection h with h
    rw [← h]
    rfl
  | cons p rest ih =>
    rw [text?, List.mapM_cons] at h
    simp only [Option.bind_eq_bind, Option.bind_eq_some_iff] at h
    obtain ⟨c, hc, cs, hcs, heq⟩ := h
    injection heq with heq
    rw [← heq, ih hcs]
    cases p with
    | scalar d => injection hc with hc; rw [hc]; rfl
    | lone half => exact absurd hc (by simp [Point.char?])

theorem text?_eq_some_iff (raw : RawText) (t : Text) : text? raw = some t ↔ raw = rawOf t :=
  ⟨eq_rawOf_of_text?, fun h => h ▸ text?_rawOf t⟩

/-! ## Runs of lone halves -/

/-- Where the first lone half of a raw text stands, and how many lone halves follow each other
there. -/
def firstLoneRun? (raw : RawText) : Option (Nat × RawText) :=
  let before := raw.takeWhile fun p => !p.isLone
  match (raw.drop before.length).takeWhile Point.isLone with
  | [] => none
  | run => some (before.length, run)

/-- The number of octets of a raw text in the encoding UTF-8. -/
def octets (raw : RawText) : Nat := raw.foldr (fun p size => p.octets + size) 0

/-! ## Line ends -/

/-- The raw text `done`, last first, and after it a raw text with every line end a single line
feed. -/
def unifyLineEndsAfter (done : RawText) : RawText → RawText
  | [] => done.reverse
  | .scalar '\r' :: .scalar '\n' :: rest => unifyLineEndsAfter (.scalar '\n' :: done) rest
  | .scalar '\r' :: rest => unifyLineEndsAfter (.scalar '\n' :: done) rest
  | p :: rest => unifyLineEndsAfter (p :: done) rest

/-- The raw text with every line end, one of the three customary ones, a single line feed. -/
def unifyLineEnds (raw : RawText) : RawText := unifyLineEndsAfter [] raw

end RawText

end GraphScribe
