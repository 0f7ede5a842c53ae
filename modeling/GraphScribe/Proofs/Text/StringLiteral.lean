import GraphScribe.Proofs.Text.Literal
import GraphScribe.Proofs.Text.Plain

/-!
# String literals of program source

Programs are written in a language with more string literals than `quoted` writes: in either quote,
one quote or three at either end, with line ends left out, characters by their names, and backslashes
that stand for themselves. `readLiteral` reads all of them, the way the language does: it looks for the
closing quotes first, and only then for what the text between them denotes. What is denoted need not be
a text, because an escape can number half of a surrogate pair.

Main statement: a literal that `RawText.quoted` writes is read up to its last character as what it was
written for, whatever stands behind it, as long as that is no quote (`readLiteral_quoted_append`).

## The architecture

* **`scanBody`** — the body of a literal and what stands behind its closing quotes; **`InBody`** — the
  bodies that do not end before their end.
* **`readEscape`**, **`denoted?`** — what a body denotes.
* **`RawText.quoted`** — the literal for any code points. It is `quoted` for a text.
-/

namespace GraphScribe

/-! ## Where a literal ends

Source has line feeds for its line ends when its literals are read. -/

/-- The body of a literal and what stands behind its closing quotes. A backslash takes the next
character with it; a line feed does not stand in a literal with one quote at its end. -/
def scanBody (closing : Text) : Text → Option (Text × Text)
  | [] => none
  | '\\' :: c :: rest => (scanBody closing rest).map fun (body, behind) => ('\\' :: c :: body, behind)
  | c :: rest =>
    match closing.isPrefixOf? (c :: rest) with
    | some behind => some ([], behind)
    | none =>
      if c = '\n' ∧ closing.length = 1 then none
      else (scanBody closing rest).map fun (body, behind) => (c :: body, behind)

/-! ## What a body denotes -/

/-- The escapes of a single letter or mark, and what they denote. -/
def plainEscapes : List (Char × Char) := [
  ('\\', '\\'), ('\x27', '\x27'), ('\x22', '\x22'), ('a', '\x07'), ('b', '\x08'), ('f', '\x0c'),
  ('n', '\n'), ('r', '\r'), ('t', '\t'), ('v', '\x0b')]

/-- Reads `width` hexadecimal digits as the code point they number. -/
def readHexPoint (width : Nat) (t : Text) : Option (Point × Text) :=
  let digits := t.take width
  if digits.length = width then
    (hexValue? digits).bind fun n =>
      if n < 0x110000 then some (Point.ofNat n, t.drop width) else none
  else none

def isOctalDigit (c : Char) : Bool := '0' ≤ c && c ≤ '7'

/-- Reads the octal digits at the start of a text, three at most, as the code point they number. -/
def readOctalPoint (t : Text) : Option (Point × Text) :=
  match (t.take 3).takeWhile isOctalDigit with
  | [] => none
  | digits =>
    some (Point.ofNat (digits.foldl (fun n d => 8 * n + (d.toNat - 48)) 0), t.drop digits.length)

/-- Reads the name in braces at the start of a text as the character of that name. -/
def readNamedPoint (named : Text → Option Char) : Text → Option (Point × Text)
  | '{' :: rest =>
    match rest.dropWhile (· != '}') with
    | [] => none
    | _ :: behind => (named (rest.takeWhile (· != '}'))).map fun c => (.scalar c, behind)
  | _ => none

/-- What the escape at the start of a text denotes, without its backslash, and what stands behind it.
A backslash before a line feed denotes nothing, and one before a character that makes no escape denotes
itself. -/
def readEscape (named : Text → Option Char) : Text → Option (RawText × Text)
  | [] => none
  | '\n' :: rest => some ([], rest)
  | 'x' :: rest => (readHexPoint 2 rest).map fun (p, behind) => ([p], behind)
  | 'u' :: rest => (readHexPoint 4 rest).map fun (p, behind) => ([p], behind)
  | 'U' :: rest => (readHexPoint 8 rest).map fun (p, behind) => ([p], behind)
  | 'N' :: rest => (readNamedPoint named rest).map fun (p, behind) => ([p], behind)
  | c :: rest =>
    match plainEscapes.lookup c with
    | some d => some ([.scalar d], rest)
    | none =>
      match readOctalPoint (c :: rest) with
      | some (p, behind) => some ([p], behind)
      | none => some ([.scalar '\\', .scalar c], rest)

/-- What a body denotes; `fuel` bounds the number of its characters and escapes. -/
def denotedFrom? (named : Text → Option Char) : Nat → Text → Option RawText
  | _, [] => some []
  | 0, _ :: _ => none
  | fuel + 1, '\\' :: rest =>
    (readEscape named rest).bind fun (points, behind) =>
      (denotedFrom? named fuel behind).map fun more => points ++ more
  | fuel + 1, c :: rest => (denotedFrom? named fuel rest).map fun more => .scalar c :: more

/-- What a body denotes. -/
def denoted? (named : Text → Option Char) (body : Text) : Option RawText :=
  denotedFrom? named body.length body

/-- Reads the string literal at the start of a text, for given names of characters: what it denotes,
and what stands behind it. -/
def readLiteral (named : Text → Option Char) : Text → Option (RawText × Text)
  | [] => none
  | quote :: rest =>
    if quote = '\x27' ∨ quote = '\x22' then
      -- two more quotes open a literal that three quotes close
      match [quote, quote].isPrefixOf? rest with
      | some inside =>
        (scanBody [quote, quote, quote] inside).bind fun (body, behind) =>
          (denoted? named body).map fun points => (points, behind)
      | none =>
        (scanBody [quote] rest).bind fun (body, behind) =>
          (denoted? named body).map fun points => (points, behind)
    else none

/-! ## The literal for any code points -/

namespace RawText

/-- The quote that the literal for `raw` is written in. -/
def quoteFor (raw : RawText) : Char :=
  if raw.contains (.scalar '\x27') && !raw.contains (.scalar '\x22') then '\x22' else '\x27'

/-- How one code point is written between two `quote`s; a lone half has no visible form. -/
def quotedPoint (quote : Char) : Point → Text
  | .scalar c => quotedChar quote c
  | .lone half => '\\' :: 'u' :: hexDigits 4 (0xD800 + half)

/-- The literal that denotes some code points on a single line of program source. -/
def quoted (raw : RawText) : Text :=
  raw.quoteFor :: raw.flatMap (quotedPoint raw.quoteFor) ++ [raw.quoteFor]

theorem quoted_rawOf (t : Text) : (rawOf t).quoted = GraphScribe.quoted t := by
  have same : (rawOf t).quoteFor = GraphScribe.quoteFor t := by
    have holds : ∀ c : Char, (rawOf t).contains (.scalar c) = t.contains c := by
      intro c
      rw [Bool.eq_iff_iff, List.contains_iff_mem, List.contains_iff_mem, rawOf, List.mem_map]
      simp
    unfold quoteFor GraphScribe.quoteFor
    rw [holds, holds]
  unfold quoted GraphScribe.quoted
  dsimp only
  rw [same, rawOf, List.flatMap_map]
  rfl

end RawText

/-! ## How a code point is written -/

theorem Point.code_lt (p : Point) : p.code < 0x110000 := by
  cases p with
  | scalar c =>
    have valid : c.toNat < 0xD800 ∨ 0xDFFF < c.toNat ∧ c.toNat < 0x110000 := c.valid
    show c.toNat < 0x110000
    omega
  | lone half =>
    have := half.isLt
    show 0xD800 + half.val < 0x110000
    omega

theorem Point.ofNat_code (p : Point) : Point.ofNat p.code = p := by
  cases p with
  | scalar c => exact ofNat_toNat c
  | lone half =>
    have := half.isLt
    have inside : 0xD800 ≤ 0xD800 + half.val ∧ 0xD800 + half.val < 0xE000 := by omega
    show Point.ofNat (0xD800 + half.val) = _
    unfold Point.ofNat
    rw [dif_pos inside]
    exact congrArg lone (Fin.ext (Nat.add_sub_cancel_left 0xD800 half.val))

/-- The letters of the escapes by number, and how many digits they take. -/
def hexEscapes : List (Char × Nat) := [('x', 2), ('u', 4), ('U', 8)]

/-- The ways in which a code point is written between two `quote`s: as it is, by an escape of its own,
or by its number. -/
inductive WrittenAs (quote : Char) : Point → Text → Prop
  | itself {c : Char} (hquote : c ≠ quote) (hslash : c ≠ '\\') (visible : isPrintable c = true) :
      WrittenAs quote (.scalar c) [c]
  | escape {letter c : Char} (h : (letter, c) ∈ plainEscapes) :
      WrittenAs quote (.scalar c) ['\\', letter]
  | number {letter : Char} {width : Nat} {p : Point} (h : (letter, width) ∈ hexEscapes)
      (small : p.code < Nat.pow 16 width) :
      WrittenAs quote p ('\\' :: letter :: hexDigits width p.code)

theorem writtenAs_quotedPoint {quote : Char} (hquote : IsQuote quote) (p : Point) :
    WrittenAs quote p (RawText.quotedPoint quote p) := by
  cases p with
  | lone half =>
    have small : (Point.lone half).code < Nat.pow 16 4 := by
      have := half.isLt
      show 0xD800 + half.val < 65536
      omega
    exact .number (by decide) small
  | scalar c =>
    show WrittenAs quote _ (quotedChar quote c)
    unfold quotedChar
    split
    · next hescaped =>
      rcases hescaped with rfl | rfl
      · rcases hquote with rfl | rfl
        · exact .escape (by decide)
        · exact .escape (by decide)
      · exact .escape (by decide)
    next hplain =>
    rw [not_or] at hplain
    split
    · next h => exact h ▸ .escape (by decide)
    split
    · next h => exact h ▸ .escape (by decide)
    split
    · next h => exact h ▸ .escape (by decide)
    split
    · next visible => exact .itself hplain.1 hplain.2 visible
    split
    · next small => exact @WrittenAs.number quote 'x' 2 (.scalar c) (by decide) small
    split
    · next small => exact @WrittenAs.number quote 'u' 4 (.scalar c) (by decide) small
    · exact @WrittenAs.number quote 'U' 8 (.scalar c) (by decide) (UInt32.toNat_lt c.val)

theorem exists_of_mem_hexDigits {width n : Nat} {c : Char} (h : c ∈ hexDigits width n) :
    ∃ i : Fin 16, c = hexDigit i := by
  induction width generalizing n with
  | zero => exact absurd h List.not_mem_nil
  | succ w ih =>
    rw [hexDigits, List.mem_append, List.mem_singleton] at h
    rcases h with h | h
    · exact ih h
    · exact ⟨⟨n % 16, Nat.mod_lt n (by omega)⟩, h⟩

theorem ne_backslash_of_isQuote {quote : Char} (h : IsQuote quote) : quote ≠ '\\' := by
  rcases h with rfl | rfl <;> decide

section
variable {quote : Char} {p : Point} {written : Text}

/-- Nothing that is written for a code point starts with the closing quote. -/
theorem WrittenAs.exists_cons (hquote : IsQuote quote) (h : WrittenAs quote p written) :
    ∃ c rest, written = c :: rest ∧ c ≠ quote := by
  cases h with
  | itself hne => exact ⟨_, [], rfl, hne⟩
  | escape => exact ⟨'\\', _, rfl, (ne_backslash_of_isQuote hquote).symm⟩
  | number => exact ⟨'\\', _, rfl, (ne_backslash_of_isQuote hquote).symm⟩

theorem WrittenAs.not_isLineBreak (h : WrittenAs quote p written) :
    ∀ c ∈ written, Text.isLineBreak c = false := by
  have letters : ∀ pair ∈ plainEscapes, Text.isLineBreak pair.1 = false := by decide
  have numbers : ∀ pair ∈ hexEscapes, Text.isLineBreak pair.1 = false := by decide
  cases h with
  | itself _ _ visible =>
    rw [List.forall_mem_singleton]
    exact not_isLineBreak_of_isPrintable visible
  | escape h =>
    rw [List.forall_mem_cons, List.forall_mem_singleton]
    exact ⟨by decide, letters _ h⟩
  | number h =>
    rw [List.forall_mem_cons, List.forall_mem_cons]
    exact ⟨by decide, numbers _ h, fun c => not_isLineBreak_of_mem_hexDigits⟩

/-! ## A literal ends at its end -/

/-- A body in which nothing ends a literal with one quote at its end. -/
inductive InBody (quote : Char) : Text → Prop
  | nil : InBody quote []
  | plain {c : Char} {rest : Text} (hquote : c ≠ quote) (hslash : c ≠ '\\') (hfeed : c ≠ '\n')
      (h : InBody quote rest) : InBody quote (c :: rest)
  | escape {c : Char} {rest : Text} (h : InBody quote rest) : InBody quote ('\\' :: c :: rest)

theorem InBody.append {s t : Text} (hs : InBody quote s) (ht : InBody quote t) :
    InBody quote (s ++ t) := by
  induction hs with
  | nil => exact ht
  | plain hquote hslash hfeed _ ih => exact .plain hquote hslash hfeed ih
  | escape _ ih => exact .escape ih

theorem inBody_hexDigits (hquote : IsQuote quote) (width n : Nat) :
    InBody quote (hexDigits width n) := by
  have digits : ∀ i : Fin 16, ¬ IsQuote (hexDigit i) ∧ hexDigit i ≠ '\\' ∧ hexDigit i ≠ '\n' := by
    unfold IsQuote
    decide
  have plain : ∀ t : Text, (∀ c ∈ t, ∃ i : Fin 16, c = hexDigit i) → InBody quote t := by
    intro t ht
    induction t with
    | nil => exact .nil
    | cons c t ih =>
      rw [List.forall_mem_cons] at ht
      obtain ⟨⟨i, rfl⟩, ht⟩ := ht
      obtain ⟨other, hslash, hfeed⟩ := digits i
      exact .plain (fun h => other (h ▸ hquote)) hslash hfeed (ih ht)
  exact plain _ fun c => exists_of_mem_hexDigits

theorem WrittenAs.inBody (hquote : IsQuote quote) (h : WrittenAs quote p written) :
    InBody quote written := by
  cases h with
  | itself hne hslash visible =>
    refine .plain hne hslash ?_ .nil
    rintro rfl
    exact absurd visible (by decide)
  | escape => exact .escape .nil
  | number => exact .escape (inBody_hexDigits hquote _ _)

/-- A body goes on behind a character that neither ends it nor escapes the next one. -/
theorem scanBody_plain {c : Char} (hquote : c ≠ quote) (hslash : c ≠ '\\') (hfeed : c ≠ '\n')
    (t : Text) :
    scanBody [quote] (c :: t) = (scanBody [quote] t).map fun (body, behind) => (c :: body, behind) := by
  have inside : [quote].isPrefixOf? (c :: t) = none := by
    simp [List.isPrefixOf?, hquote.symm]
  rw [scanBody, inside]
  · exact if_neg fun h => hfeed h.1
  · exact fun _ _ h _ => hslash h

theorem scanBody_of_inBody (hquote : IsQuote quote) {body : Text} (h : InBody quote body)
    (behind : Text) : scanBody [quote] (body ++ quote :: behind) = some (body, behind) := by
  induction h with
  | nil => rcases hquote with rfl | rfl <;> rfl
  | plain hne hslash hfeed _ ih =>
    rw [List.cons_append, scanBody_plain hne hslash hfeed, ih]
    rfl
  | @escape c rest _ ih =>
    show (scanBody [quote] (rest ++ quote :: behind)).map _ = _
    rw [ih]
    rfl

/-! ## A literal denotes what it was written for -/

theorem readHexPoint_hexDigits (width : Nat) (p : Point) (behind : Text)
    (small : p.code < Nat.pow 16 width) :
    readHexPoint width (hexDigits width p.code ++ behind) = some (p, behind) := by
  have front : (hexDigits width p.code ++ behind).take width = hexDigits width p.code :=
    List.take_left' (length_hexDigits width p.code)
  have back : (hexDigits width p.code ++ behind).drop width = behind :=
    List.drop_left' (length_hexDigits width p.code)
  unfold readHexPoint
  dsimp only
  rw [front, back, if_pos (length_hexDigits width p.code), hexValue?_hexDigits width _ small,
    Option.bind_some, if_pos p.code_lt, p.ofNat_code]

theorem readEscape_of_mem {named : Text → Option Char} {letter c : Char}
    (h : (letter, c) ∈ plainEscapes) (behind : Text) :
    readEscape named (letter :: behind) = some ([.scalar c], behind) := by
  have all : ∀ pair ∈ plainEscapes,
      readEscape named (pair.1 :: behind) = some ([.scalar pair.2], behind) := by
    unfold plainEscapes
    simp only [List.forall_mem_cons]
    exact ⟨rfl, rfl, rfl, rfl, rfl, rfl, rfl, rfl, rfl, rfl, by simp⟩
  exact all _ h

theorem readEscape_hexDigits {named : Text → Option Char} {letter : Char} {width : Nat}
    (h : (letter, width) ∈ hexEscapes) (small : p.code < Nat.pow 16 width) (behind : Text) :
    readEscape named (letter :: (hexDigits width p.code ++ behind)) = some ([p], behind) := by
  have read := readHexPoint_hexDigits width p behind small
  have all : ∀ pair ∈ hexEscapes, ∀ t : Text, readEscape named (pair.1 :: t)
      = (readHexPoint pair.2 t).map fun (p, behind) => ([p], behind) := by
    unfold hexEscapes
    simp only [List.forall_mem_cons]
    exact ⟨fun _ => rfl, fun _ => rfl, fun _ => rfl, by simp⟩
  rw [all _ h, read]
  rfl

/-- What is written for a code point denotes that code point, and costs one unit of fuel. -/
theorem WrittenAs.denotedFrom? {named : Text → Option Char} (h : WrittenAs quote p written)
    (fuel : Nat) (behind : Text) :
    GraphScribe.denotedFrom? named (fuel + 1) (written ++ behind)
      = (GraphScribe.denotedFrom? named fuel behind).map fun more => p :: more := by
  have escaped : ∀ {t : Text}, readEscape named t = some ([p], behind) →
      GraphScribe.denotedFrom? named (fuel + 1) ('\\' :: t)
        = (GraphScribe.denotedFrom? named fuel behind).map fun more => p :: more := by
    intro t ht
    show (readEscape named t).bind _ = _
    rw [ht]
    rfl
  cases h with
  | @itself c _ hslash =>
    show GraphScribe.denotedFrom? named (fuel + 1) (c :: behind) = _
    rw [GraphScribe.denotedFrom?]
    exact hslash
  | escape h => exact escaped (readEscape_of_mem h behind)
  | number h small => exact escaped (readEscape_hexDigits h small behind)

end

namespace RawText

theorem isQuote_quoteFor (raw : RawText) : IsQuote raw.quoteFor := by
  unfold quoteFor
  split
  · exact Or.inr rfl
  · exact Or.inl rfl

variable {quote : Char}

theorem length_le_length_flatMap_quotedPoint (hquote : IsQuote quote) (raw : RawText) :
    raw.length ≤ (raw.flatMap (quotedPoint quote)).length := by
  induction raw with
  | nil => exact Nat.le_refl 0
  | cons p raw ih =>
    obtain ⟨c, rest, written, -⟩ := (writtenAs_quotedPoint hquote p).exists_cons hquote
    rw [List.flatMap_cons, written, List.length_append, List.length_cons, List.length_cons]
    omega

theorem inBody_flatMap (hquote : IsQuote quote) (raw : RawText) :
    InBody quote (raw.flatMap (quotedPoint quote)) := by
  induction raw with
  | nil => exact .nil
  | cons p raw ih => exact ((writtenAs_quotedPoint hquote p).inBody hquote).append ih

/-- Induction on the code points, each of which costs one unit of fuel. -/
theorem denotedFrom?_flatMap (named : Text → Option Char) (hquote : IsQuote quote) (raw : RawText)
    (fuel : Nat) (enough : raw.length ≤ fuel) :
    denotedFrom? named fuel (raw.flatMap (quotedPoint quote)) = some raw := by
  induction raw generalizing fuel with
  | nil => cases fuel <;> rfl
  | cons p raw ih =>
    cases fuel with
    | zero => exact absurd enough (Nat.not_succ_le_zero _)
    | succ fuel =>
      rw [List.flatMap_cons, (writtenAs_quotedPoint hquote p).denotedFrom?,
        ih fuel (Nat.le_of_succ_le_succ enough)]
      rfl

theorem denoted?_flatMap (named : Text → Option Char) (hquote : IsQuote quote) (raw : RawText) :
    denoted? named (raw.flatMap (quotedPoint quote)) = some raw :=
  denotedFrom?_flatMap named hquote raw _ (length_le_length_flatMap_quotedPoint hquote raw)

/-- A literal does not start with three quotes: where it has no code points, its closing quote would
have to be followed by another. -/
theorem isPrefixOf?_twoQuotes (hquote : IsQuote quote) (raw : RawText) {behind : Text}
    (apart : ∀ c ∈ behind.head?, ¬ IsQuote c) :
    [quote, quote].isPrefixOf? (raw.flatMap (quotedPoint quote) ++ quote :: behind) = none := by
  cases raw with
  | nil =>
    cases behind with
    | nil => simp [List.isPrefixOf?]
    | cons c behind =>
      have other : quote ≠ c := fun h => apart c rfl (h ▸ hquote)
      simp [List.isPrefixOf?, other]
  | cons p raw =>
    obtain ⟨c, rest, written, hne⟩ := (writtenAs_quotedPoint hquote p).exists_cons hquote
    rw [List.flatMap_cons, written]
    simp [List.isPrefixOf?, hne.symm]

/-- A literal is read as what it was written for, and up to its last character, whatever stands behind
it but a quote. -/
theorem readLiteral_quoted_append (named : Text → Option Char) (raw : RawText) {behind : Text}
    (apart : ∀ c ∈ behind.head?, ¬ IsQuote c) :
    readLiteral named (raw.quoted ++ behind) = some (raw, behind) := by
  have hquote := raw.isQuote_quoteFor
  have whole : raw.quoted ++ behind = raw.quoteFor
      :: (raw.flatMap (quotedPoint raw.quoteFor) ++ raw.quoteFor :: behind) := by
    unfold quoted
    simp
  rw [whole, readLiteral,
    if_pos (show raw.quoteFor = '\x27' ∨ raw.quoteFor = '\x22' from hquote),
    isPrefixOf?_twoQuotes hquote raw apart]
  dsimp only
  rw [scanBody_of_inBody hquote (inBody_flatMap hquote raw), Option.bind_some]
  dsimp only
  rw [denoted?_flatMap named hquote]
  rfl

theorem quoted_injective : Function.Injective RawText.quoted := by
  intro s t h
  have apart : ∀ c ∈ ([] : Text).head?, ¬ IsQuote c := nofun
  have hs := readLiteral_quoted_append (fun _ => none) s apart
  rw [h, readLiteral_quoted_append _ t apart] at hs
  exact (Prod.mk.inj (Option.some.inj hs)).1.symm

theorem not_isLineBreak_of_mem_quoted {raw : RawText} {c : Char} (h : c ∈ raw.quoted) :
    Text.isLineBreak c = false := by
  have hquote := raw.isQuote_quoteFor
  have quoteBreak : Text.isLineBreak raw.quoteFor = false := by
    rcases hquote with hq | hq <;> rw [hq] <;> decide
  unfold quoted at h
  rw [List.mem_append, List.mem_cons, List.mem_singleton] at h
  rcases h with (rfl | h) | rfl
  · exact quoteBreak
  · obtain ⟨p, -, hp⟩ := List.mem_flatMap.1 h
    exact (writtenAs_quotedPoint hquote p).not_isLineBreak c hp
  · exact quoteBreak

end RawText

end GraphScribe
