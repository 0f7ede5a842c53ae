import GraphScribe.Encoding.Detect
import GraphScribe.Proofs.Text.Plain

/-!
# Encoded texts are decoded

In either mode, the octets that a text is encoded in are decoded as that text (`decode_encode`). The
octets of one character are a lead and up to three tails of six bits each. What follows a lead is
told by the bits that it carries and by the first tail (`Pending.Awaits`), because the first tail
rules out the long forms of small numbers, the halves of surrogate pairs, and what is no character.
-/

namespace GraphScribe.Utf8

/-- The octet that carries six bits of a character. -/
def tail (n : Nat) : UInt8 := UInt8.ofNat (n + 128)

theorem toNat_octet {n : Nat} (h : n < 256) : (UInt8.ofNat n).toNat = n := by
  rw [UInt8.toNat_ofNat', Nat.mod_eq_of_lt h]

/-- A sequence that has so many bits, lacks so many tails, and can go on with the tail `next`. -/
structure Pending.Awaits (p : Pending) (bits missing next : Nat) : Prop where
  bits : p.bits = bits
  missing : p.missing = missing
  least : p.least.toNat ≤ next + 128
  greatest : next + 128 ≤ p.greatest.toNat

/-! ## Leads -/

/-- Opens the tests on the lead of a sequence: each is a test on the number the lead has. -/
theorem opening?_ofNat (mode : Mode) (position : Nat) {n : Nat} (h : n < 256) :
    opening? mode (UInt8.ofNat n) position =
      if 0xC2 ≤ n ∧ n ≤ 0xDF then some ⟨UInt8.ofNat n, position, n - 0xC0, 1, 0x80, 0xBF⟩
      else if n = 0xE0 then some ⟨UInt8.ofNat n, position, 0, 2, 0xA0, 0xBF⟩
      else if n = 0xED ∧ mode = .strict then
        some ⟨UInt8.ofNat n, position, n - 0xE0, 2, 0x80, 0x9F⟩
      else if 0xE1 ≤ n ∧ n ≤ 0xEF then some ⟨UInt8.ofNat n, position, n - 0xE0, 2, 0x80, 0xBF⟩
      else if n = 0xF0 then some ⟨UInt8.ofNat n, position, 0, 3, 0x90, 0xBF⟩
      else if 0xF1 ≤ n ∧ n ≤ 0xF3 then some ⟨UInt8.ofNat n, position, n - 0xF0, 3, 0x80, 0xBF⟩
      else if n = 0xF4 then some ⟨UInt8.ofNat n, position, 4, 3, 0x80, 0x8F⟩
      else none := by
  unfold opening?
  rw [toNat_octet h]

/-- A sequence that has just been opened goes on with any tail between its bounds. -/
theorem exists_awaits {lead least greatest : UInt8} {position bits bits' missing next : Nat}
    (low high : Nat) (hleast : least.toNat = low) (hgreatest : greatest.toNat = high)
    (hbits : bits = bits') (hlow : low ≤ next + 128) (hhigh : next + 128 ≤ high) :
    ∃ p, some (⟨lead, position, bits, missing, least, greatest⟩ : Pending) = some p
      ∧ p.Awaits bits' missing next :=
  ⟨_, rfl, hbits, rfl, hleast ▸ hlow, hgreatest ▸ hhigh⟩

theorem exists_opening_two (mode : Mode) (position : Nat) {top next : Nat}
    (htop : 2 ≤ top ∧ top < 32) (hnext : next < 64) :
    ∃ p, opening? mode (UInt8.ofNat (top + 192)) position = some p ∧ p.Awaits top 1 next := by
  rw [opening?_ofNat mode position (by omega), if_pos (by omega)]
  exact exists_awaits 0x80 0xBF rfl rfl (by omega) (by omega) (by omega)

theorem exists_opening_three (mode : Mode) (position : Nat) {top next : Nat} (htop : top < 16)
    (hnext : next < 64) (hlong : top = 0 → 32 ≤ next) (hhalf : top = 13 → next < 32) :
    ∃ p, opening? mode (UInt8.ofNat (top + 224)) position = some p ∧ p.Awaits top 2 next := by
  rw [opening?_ofNat mode position (by omega), if_neg (by omega)]
  split
  · exact exists_awaits 0xA0 0xBF rfl rfl (by omega) (by omega) (by omega)
  split
  · exact exists_awaits 0x80 0x9F rfl rfl (by omega) (by omega) (by omega)
  · rw [if_pos (by omega)]
    exact exists_awaits 0x80 0xBF rfl rfl (by omega) (by omega) (by omega)

theorem exists_opening_four (mode : Mode) (position : Nat) {top next : Nat} (htop : top ≤ 4)
    (hnext : next < 64) (hlong : top = 0 → 16 ≤ next) (hlast : top = 4 → next < 16) :
    ∃ p, opening? mode (UInt8.ofNat (top + 240)) position = some p ∧ p.Awaits top 3 next := by
  rw [opening?_ofNat mode position (by omega), if_neg (by omega), if_neg (by omega),
    if_neg (by omega), if_neg (by omega)]
  split
  · exact exists_awaits 0x90 0xBF rfl rfl (by omega) (by omega) (by omega)
  split
  · exact exists_awaits 0x80 0xBF rfl rfl (by omega) (by omega) (by omega)
  · rw [if_pos (by omega)]
    exact exists_awaits 0x80 0x8F rfl rfl (by omega) (by omega) (by omega)

/-! ## Tails -/

/-- A tail that a sequence can go on with adds its six bits. -/
theorem decodeFrom_tail (mode : Mode) (position : Nat) (done : RawText) {p : Pending}
    {bits missing n : Nat} (h : p.Awaits bits missing n) (hn : n < 64) (rest : List UInt8) :
    decodeFrom mode position (some p) done (tail n :: rest) =
      if missing ≤ 1 then
        decodeFrom mode (position + 1) none (Point.ofNat (bits * 64 + n) :: done) rest
      else
        decodeFrom mode (position + 1) (some ⟨p.lead, p.first, bits * 64 + n, missing - 1, 0x80, 0xBF⟩)
          done rest := by
  have octet : (tail n).toNat = n + 128 := toNat_octet (by omega)
  have within : p.least ≤ tail n ∧ tail n ≤ p.greatest := by
    rw [UInt8.le_iff_toNat_le, UInt8.le_iff_toNat_le, octet]
    exact ⟨h.least, h.greatest⟩
  have added : p.bits * 64 + ((tail n).toNat - 0x80) = bits * 64 + n := by
    rw [h.bits, octet]
    omega
  rw [decodeFrom, if_pos within]
  dsimp only
  rw [added, h.missing]

/-- The tails of a sequence complete it. Induction on the tails after the first one, which alone has
bounds of its own. -/
theorem exists_decodeFrom_tails (mode : Mode) (done : RawText) {bits n : Nat} {ns : List Nat}
    {p : Pending} (h : p.Awaits bits (ns.length + 1) n) (hn : n < 64) (hns : ∀ m ∈ ns, m < 64)
    (position : Nat) (rest : List UInt8) :
    ∃ position', decodeFrom mode position (some p) done ((n :: ns).map tail ++ rest)
      = decodeFrom mode position' none
          (Point.ofNat ((n :: ns).foldl (fun bits m => bits * 64 + m) bits) :: done) rest := by
  induction ns generalizing n bits p position with
  | nil =>
    refine ⟨position + 1, ?_⟩
    rw [List.map_singleton, List.singleton_append, decodeFrom_tail mode position done h hn]
    rfl
  | cons m ns ih =>
    rw [List.forall_mem_cons] at hns
    rw [List.map_cons, List.cons_append, decodeFrom_tail mode position done h hn,
      if_neg (by rw [List.length_cons]; omega)]
    refine ih ⟨rfl, rfl, ?_, ?_⟩ hns.1 hns.2 (position + 1) <;> simp
    omega

/-! ## Characters and texts -/

/-- A lead that opens a sequence and the tails that the sequence awaits are decoded as the character
whose number their bits make. -/
theorem exists_decodeFrom_sequence {mode : Mode} {position lead top next : Nat} {others : List Nat}
    {c : Char} (hlead : 128 ≤ lead ∧ lead < 256) (hnext : next < 64) (hothers : ∀ m ∈ others, m < 64)
    (hsum : (next :: others).foldl (fun bits m => bits * 64 + m) top = c.toNat)
    (hopening : ∃ p, opening? mode (UInt8.ofNat lead) position = some p
      ∧ p.Awaits top (others.length + 1) next) (done : RawText) (rest : List UInt8) :
    ∃ position', decodeFrom mode position none done
        (UInt8.ofNat lead :: ((next :: others).map tail ++ rest))
      = decodeFrom mode position' none (.scalar c :: done) rest := by
  obtain ⟨p, hp, awaits⟩ := hopening
  obtain ⟨position', tails⟩ :=
    exists_decodeFrom_tails mode done awaits hnext hothers (position + 1) rest
  have long : ¬ UInt8.ofNat lead < 0x80 := by
    rw [UInt8.lt_iff_toNat_lt, toNat_octet hlead.2]
    simp
    omega
  refine ⟨position', ?_⟩
  rw [decodeFrom, if_neg long, hp]
  dsimp only
  rw [tails, hsum, Point.ofNat_toNat]

/-- The octets of one character are decoded as that character. -/
theorem exists_decodeFrom_encodeChar (mode : Mode) (position : Nat) (done : RawText) (c : Char)
    (rest : List UInt8) :
    ∃ position', decodeFrom mode position none done (String.utf8EncodeChar c ++ rest)
      = decodeFrom mode position' none (.scalar c :: done) rest := by
  have number : c.val.toNat = c.toNat := rfl
  have noHalf : c.toNat < 0xD800 ∨ 0xDFFF < c.toNat ∧ c.toNat < 0x110000 := c.valid
  unfold String.utf8EncodeChar
  dsimp only
  rw [number]
  split
  · next hone =>
    have short : UInt8.ofNat c.toNat < 0x80 := by
      rw [UInt8.lt_iff_toNat_lt, toNat_octet (by omega)]
      simp
      omega
    refine ⟨position + 1, ?_⟩
    rw [List.singleton_append, decodeFrom, if_pos short, toNat_octet (by omega), Char.ofNat_toNat]
  split
  · next hone htwo =>
    have hsum : [c.toNat % 64].foldl (fun bits m => bits * 64 + m) (c.toNat / 64 % 32) = c.toNat := by
      show c.toNat / 64 % 32 * 64 + c.toNat % 64 = c.toNat
      omega
    exact exists_decodeFrom_sequence (by omega) (by omega) (by simp) hsum
      (exists_opening_two mode position (by omega) (by omega)) done rest
  split
  · next hone htwo hthree =>
    have hsum : [c.toNat / 64 % 64, c.toNat % 64].foldl (fun bits m => bits * 64 + m)
        (c.toNat / 4096 % 16) = c.toNat := by
      show (c.toNat / 4096 % 16 * 64 + c.toNat / 64 % 64) * 64 + c.toNat % 64 = c.toNat
      omega
    exact exists_decodeFrom_sequence (by omega) (by omega) (by simp; omega) hsum
      (exists_opening_three mode position (by omega) (by omega) (by omega) (by omega)) done rest
  · next hone htwo hthree =>
    have hsum : [c.toNat / 4096 % 64, c.toNat / 64 % 64, c.toNat % 64].foldl
        (fun bits m => bits * 64 + m) (c.toNat / 262144 % 8) = c.toNat := by
      show ((c.toNat / 262144 % 8 * 64 + c.toNat / 4096 % 64) * 64 + c.toNat / 64 % 64) * 64
        + c.toNat % 64 = c.toNat
      omega
    exact exists_decodeFrom_sequence (by omega) (by omega) (by simp; omega) hsum
      (exists_opening_four mode position (by omega) (by omega) (by omega) (by omega)) done rest

theorem decodeFrom_encode (mode : Mode) (position : Nat) (done : RawText) (t : Text) :
    decodeFrom mode position none done (encode t) = .ok (done.reverse ++ rawOf t) := by
  induction t generalizing position done with
  | nil =>
    show Except.ok done.reverse = _
    rw [show rawOf [] = [] from rfl, List.append_nil]
  | cons c t ih =>
    obtain ⟨position', first⟩ :=
      exists_decodeFrom_encodeChar mode position done c (encode t)
    show decodeFrom mode position none done (String.utf8EncodeChar c ++ encode t) = _
    rw [first, ih, List.reverse_cons, List.append_assoc]
    rfl

/-- Decoding undoes encoding. -/
theorem decode_encode (mode : Mode) (t : Text) : decode mode (encode t) = .ok (rawOf t) :=
  decodeFrom_encode mode 0 [] t

end GraphScribe.Utf8

namespace GraphScribe

/-! ## Bodies -/

/-- Two plain characters at the start of a body tell that it is in UTF-8. -/
theorem Encoding.detect_encode {c d : Char} (hc : 0 < c.toNat ∧ c.toNat < 0x80)
    (hd : 0 < d.toNat ∧ d.toNat < 0x80) (t : Text) :
    detect (Utf8.encode (c :: d :: t)) = (utf8, Utf8.encode (c :: d :: t)) := by
  have single : ∀ e : Char, e.toNat < 0x80 → String.utf8EncodeChar e = [UInt8.ofNat e.toNat] := by
    intro e he
    unfold String.utf8EncodeChar
    exact if_pos (Nat.le_of_lt_succ he)
  have plain : ∀ e : Char, 0 < e.toNat ∧ e.toNat < 0x80 →
      UInt8.ofNat e.toNat ≠ 0 ∧ UInt8.ofNat e.toNat < 0x80 := by
    intro e he
    rw [Ne, ← UInt8.toNat_inj, UInt8.lt_iff_toNat_lt, Utf8.toNat_octet (by omega)]
    simp
    omega
  obtain ⟨hc0, hc80⟩ := plain c hc
  obtain ⟨hd0, -⟩ := plain d hd
  have octets : Utf8.encode (c :: d :: t)
      = UInt8.ofNat c.toNat :: UInt8.ofNat d.toNat :: Utf8.encode t := by
    show String.utf8EncodeChar c ++ (String.utf8EncodeChar d ++ Utf8.encode t) = _
    rw [single c hc.2, single d hd.2]
    rfl
  rw [octets]
  generalize UInt8.ofNat c.toNat = a at *
  generalize UInt8.ofNat d.toNat = b at *
  -- every byte order mark starts with a zero or with an octet above 0x7F
  have noMark : ofMark? (a :: b :: Utf8.encode t) = none := by
    unfold ofMark?
    split <;> simp_all
  have noZeros : ofZeros (a :: b :: Utf8.encode t) = utf8 := by
    unfold ofZeros
    split <;> simp_all
  unfold detect
  rw [noMark, noZeros]
  rfl

theorem decodeBody?_encode {c d : Char} (hc : 0 < c.toNat ∧ c.toNat < 0x80)
    (hd : 0 < d.toNat ∧ d.toNat < 0x80) (t : Text) :
    decodeBody? (Utf8.encode (c :: d :: t)) = some (rawOf (c :: d :: t)) := by
  unfold decodeBody?
  rw [Encoding.detect_encode hc hd]
  show (Utf8.decode .lenient (Utf8.encode (c :: d :: t))).toOption = _
  rw [Utf8.decode_encode]
  rfl

end GraphScribe
