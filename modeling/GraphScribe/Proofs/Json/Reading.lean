import GraphScribe.Json.Reader
import GraphScribe.Json.Writer
import GraphScribe.Proofs.Text.Letter
import GraphScribe.Proofs.Text.Literal
import GraphScribe.Proofs.Text.Plain
import Mathlib.Data.List.Forall2

/-!
# Written JSON is read back

The reader undoes the writer: in every layout whose blanks are gaps, a value without numbers that is
not nested too deep is read back as itself, whatever stands behind it (`written_writeAt`), and so is
a whole document (`readDocument_writeAt`). The written form may have been *respelled* on its way: a
`<` may have become an escape, wherever it stood.
-/

namespace GraphScribe.Json

/-! ## Respelling -/

/-- A way to write code points anew in which only `<` may change, into the escape for it. -/
structure Respelling (f : Point → RawText) : Prop where
  other : ∀ p, p ≠ .scalar '<' → f p = [p]
  angle : f (.scalar '<') = [.scalar '<'] ∨ f (.scalar '<') = rawOf "\\u003c".toList

theorem respelling_singleton : Respelling fun p => [p] where
  other _ _ := rfl
  angle := Or.inl rfl

variable {f : Point → RawText}

theorem Respelling.flatMap_rawOf (hf : Respelling f) {t : Text} (h : '<' ∉ t) :
    (rawOf t).flatMap f = rawOf t := by
  induction t with
  | nil => rfl
  | cons c t ih =>
    rw [List.mem_cons, not_or] at h
    have hc : Point.scalar c ≠ .scalar '<' := fun heq => h.1 (Point.scalar.inj heq).symm
    show f (.scalar c) ++ (rawOf t).flatMap f = .scalar c :: rawOf t
    rw [hf.other _ hc, ih h.2, List.singleton_append]

/-! ## One code point of a string -/

/-- The piece of a string that a code point is read from. -/
def Piece.Means : Piece → Point → Prop
  | .point q, p => q = p
  | .unit n, p => n < 0xD800 ∧ Point.ofNat n = p

/-- A unit that is no half of a pair stands for itself, whatever comes next. -/
theorem joinPieces_unit (done : RawText) {n : Nat} (h : n < 0xD800) (rest : List Piece) :
    joinPieces done (.unit n :: rest) = joinPieces (Point.ofNat n :: done) rest := by
  have low : isHighHalf n = false := by
    unfold isHighHalf
    rw [decide_eq_false (by omega), Bool.false_and]
  match rest with
  | [] => rfl
  | .point p :: rest => rfl
  | .unit m :: rest =>
    rw [joinPieces, low, Bool.false_and]
    rfl

theorem joinPieces_of_means {pieces : List Piece} {t : RawText}
    (h : List.Forall₂ Piece.Means pieces t) (done : RawText) :
    joinPieces done pieces = done.reverse ++ t := by
  induction h generalizing done with
  | nil => exact (List.append_nil _).symm
  | @cons piece p pieces t means _ ih =>
    have step : joinPieces done (piece :: pieces) = joinPieces (p :: done) pieces := by
      cases piece with
      | point q =>
        have hq : q = p := means
        rw [joinPieces, hq]
      | unit n =>
        obtain ⟨small, hn⟩ : n < 0xD800 ∧ Point.ofNat n = p := means
        rw [joinPieces_unit done small, hn]
    rw [step, ih, List.reverse_cons, List.append_assoc, List.singleton_append]

/-- Four digits and one more code point after a backslash and `u` make up a unit. -/
theorem piecesFrom_unit (whole : RawText) (done : List Piece) {digits : Text} {n : Nat}
    (hlength : digits.length = 4) (hvalue : hexValue? digits = some n) (next : Point)
    (rest : RawText) :
    piecesFrom whole done (rawOf ('\\' :: 'u' :: digits) ++ next :: rest)
      = piecesFrom whole (.unit n :: done) (next :: rest) := by
  match digits, hlength with
  | [a, b, c, d], _ =>
    have number : hexUnit? (.scalar a) (.scalar b) (.scalar c) (.scalar d) = some n := hvalue
    show piecesFrom whole done (.scalar '\\' :: .scalar 'u' :: .scalar a :: .scalar b :: .scalar c
      :: .scalar d :: next :: rest) = _
    rw [piecesFrom, number]

/-- A backslash and one character that has a meaning after it. -/
theorem piecesFrom_escape (whole : RawText) (done : List Piece) {e c : Char}
    (h : escaped? e = some c) (rest : RawText) :
    piecesFrom whole done (rawOf ['\\', e] ++ rest)
      = piecesFrom whole (.point (.scalar c) :: done) rest := by
  have hu : e ≠ 'u' := by
    rintro rfl
    exact absurd (show none = some c from h) (by simp)
  show piecesFrom whole done (.scalar '\\' :: .scalar e :: rest) = _
  rw [piecesFrom, h]
  all_goals simp [hu]

theorem piecesFrom_plain (whole : RawText) (done : List Piece) {c : Char} (hquote : c ≠ '\x22')
    (hslash : c ≠ '\\') (hvisible : ¬ c.toNat < 0x20) (rest : RawText) :
    piecesFrom whole done (.scalar c :: rest)
      = piecesFrom whole (.point (.scalar c) :: done) rest := by
  rw [piecesFrom, if_neg hvisible]
  all_goals simp [hquote, hslash]

/-- What is written for one code point of a string is read as a piece that means it. -/
theorem exists_piecesFrom_stringPoint (hf : Respelling f) (whole : RawText) (done : List Piece)
    (p next : Point) (rest : RawText) :
    ∃ piece : Piece, piece.Means p ∧
      piecesFrom whole done ((stringPoint p).flatMap f ++ next :: rest)
        = piecesFrom whole (piece :: done) (next :: rest) := by
  cases p with
  | lone half =>
    refine ⟨.point (.lone half), rfl, ?_⟩
    rw [stringPoint, List.flatMap_singleton, hf.other _ Point.noConfusion]
    rfl
  | scalar c =>
    have escape : ∀ e, escaped? e = some c → ∃ piece : Piece, piece.Means (.scalar c) ∧
        piecesFrom whole done ((rawOf ['\\', e]).flatMap f ++ next :: rest)
          = piecesFrom whole (piece :: done) (next :: rest) := by
      intro e he
      have hangle : '<' ∉ ['\\', e] := by
        rw [List.mem_pair]
        rintro (h | rfl)
        · exact absurd h (by decide)
        · exact absurd (show none = some c from he) (by simp)
      refine ⟨.point (.scalar c), rfl, ?_⟩
      rw [hf.flatMap_rawOf hangle, piecesFrom_escape whole done he]
    unfold stringPoint
    dsimp only
    split
    · next h => exact escape c (by rcases h with rfl | rfl <;> rfl)
    next hplain =>
    rw [not_or] at hplain
    split
    · next h => exact escape 'n' (by rw [h]; rfl)
    split
    · next h => exact escape 'r' (by rw [h]; rfl)
    split
    · next h => exact escape 't' (by rw [h]; rfl)
    split
    · next h => exact escape 'b' (by rw [h]; rfl)
    split
    · next h => exact escape 'f' (by rw [h]; rfl)
    split
    · next hsmall =>
      -- the other characters below U+0020 are written by their numbers
      have hangle : '<' ∉ '\\' :: 'u' :: hexDigits 4 c.toNat := by
        have all : ∀ n : Fin 0x20, '<' ∉ '\\' :: 'u' :: hexDigits 4 n := by decide
        exact all ⟨c.toNat, hsmall⟩
      have hvalue : hexValue? (hexDigits 4 c.toNat) = some c.toNat :=
        hexValue?_hexDigits 4 _ (Nat.lt_trans hsmall (by decide))
      refine ⟨.unit c.toNat, ⟨by omega, Point.ofNat_toNat c⟩, ?_⟩
      rw [hf.flatMap_rawOf hangle, piecesFrom_unit whole done (length_hexDigits 4 _) hvalue]
    · next hvisible =>
      rw [List.flatMap_singleton]
      by_cases hc : c = '<'
      · subst hc
        rcases hf.angle with h | h
        · refine ⟨.point (.scalar '<'), rfl, ?_⟩
          rw [h]
          exact piecesFrom_plain whole done hplain.1 hplain.2 hvisible _
        · refine ⟨.unit 0x3c, ⟨by decide, by decide⟩, ?_⟩
          rw [h]
          have hvalue : hexValue? "003c".toList = some 0x3c := by decide
          exact piecesFrom_unit whole done rfl hvalue next rest
      · refine ⟨.point (.scalar c), rfl, ?_⟩
        rw [hf.other _ fun h => hc (Point.scalar.inj h)]
        exact piecesFrom_plain whole done hplain.1 hplain.2 hvisible _

/-! ## Strings -/

/-- The code points of a string and its closing quote are read back. Induction on the string; what
follows a code point is never empty, for the quote is still to come. -/
theorem exists_piecesFrom_flatMap (hf : Respelling f) (whole : RawText) (t rest : RawText)
    (done : List Piece) :
    ∃ pieces, List.Forall₂ Piece.Means pieces t ∧
      piecesFrom whole done ((t.flatMap stringPoint).flatMap f ++ .scalar '\x22' :: rest)
        = .ok (done.reverse ++ pieces, rest) := by
  induction t generalizing done with
  | nil =>
    refine ⟨[], .nil, ?_⟩
    show piecesFrom whole done (.scalar '\x22' :: rest) = _
    rw [piecesFrom, List.append_nil]
  | cons p t ih =>
    have goesOn : ∃ next others,
        (t.flatMap stringPoint).flatMap f ++ .scalar '\x22' :: rest = next :: others :=
      List.exists_cons_of_ne_nil (by simp)
    obtain ⟨next, others, hnext⟩ := goesOn
    obtain ⟨piece, means, hpiece⟩ := exists_piecesFrom_stringPoint hf whole done p next others
    obtain ⟨pieces, hmeans, hpieces⟩ := ih (piece :: done)
    refine ⟨piece :: pieces, .cons means hmeans, ?_⟩
    rw [List.flatMap_cons, List.flatMap_append, List.append_assoc, hnext, hpiece, ← hnext, hpieces,
      List.reverse_cons, List.append_assoc, List.singleton_append]

theorem flatMap_stringLiteral (hf : Respelling f) (t : RawText) :
    (stringLiteral t).flatMap f
      = .scalar '\x22' :: ((t.flatMap stringPoint).flatMap f ++ [.scalar '\x22']) := by
  have quote : f (.scalar '\x22') = [.scalar '\x22'] := hf.other _ (by decide)
  unfold stringLiteral
  rw [List.flatMap_append, List.flatMap_cons, List.flatMap_singleton, quote]
  rfl

theorem readString_stringLiteral (hf : Respelling f) (t rest : RawText) :
    readString ((stringLiteral t).flatMap f ++ rest) = .ok (t, rest) := by
  obtain ⟨pieces, means, hpieces⟩ :=
    exists_piecesFrom_flatMap hf ((stringLiteral t).flatMap f ++ rest) t rest []
  have body : ((stringLiteral t).flatMap f ++ rest).drop 1
      = (t.flatMap stringPoint).flatMap f ++ .scalar '\x22' :: rest := by
    rw [flatMap_stringLiteral hf, List.cons_append, List.drop_succ_cons, List.drop_zero,
      List.append_assoc, List.singleton_append]
  unfold readString
  rw [body, hpieces]
  show Except.ok (joinPieces [] pieces, rest) = _
  rw [joinPieces_of_means means]
  rfl

/-! ## Gaps and layouts -/

/-- Nothing but gaps. -/
def Gaps (t : Text) : Prop := ∀ c ∈ t, isGap (.scalar c) = true

theorem Gaps.not_mem_angle {t : Text} (h : Gaps t) : '<' ∉ t := fun hmem =>
  absurd (h _ hmem) (by decide)

theorem skipGap_cons {c : Char} (h : isGap (.scalar c) = false) (t : RawText) :
    skipGap (.scalar c :: t) = .scalar c :: t :=
  List.dropWhile_cons_of_neg (by rw [h]; exact Bool.false_ne_true)

theorem Gaps.skipGap_append {gap : Text} (h : Gaps gap) (t : RawText) :
    skipGap (rawOf gap ++ t) = skipGap t := by
  apply List.dropWhile_append_of_pos
  intro p hp
  obtain ⟨c, hc, rfl⟩ := List.mem_map.1 hp
  exact h c hc

/-- One character and then nothing but gaps. -/
def Separates (c : Char) (t : Text) : Prop := ∃ gap, t = c :: gap ∧ Gaps gap

theorem Separates.flatMap_rawOf {c : Char} {t : Text} (h : Separates c t) (hf : Respelling f)
    (hc : '<' ≠ c) : (rawOf t).flatMap f = rawOf t := by
  obtain ⟨gap, rfl, hgap⟩ := h
  apply hf.flatMap_rawOf
  rw [List.mem_cons, not_or]
  exact ⟨hc, hgap.not_mem_angle⟩

theorem Separates.exists_skipGap_append {c : Char} {t : Text} (h : Separates c t)
    (hc : isGap (.scalar c) = false) :
    ∃ gap, Gaps gap ∧ ∀ rest, skipGap (rawOf t ++ rest) = .scalar c :: (rawOf gap ++ rest) := by
  obtain ⟨gap, rfl, hgap⟩ := h
  exact ⟨gap, hgap, fun rest => skipGap_cons hc _⟩

/-- A layout whose blanks are gaps: besides them it has a comma between items, and a colon behind
a key. -/
structure Layout.Blank (layout : Layout) : Prop where
  openItems : ∀ depth, Gaps (layout.openItems depth)
  nextItem : ∀ depth, Separates ',' (layout.nextItem depth)
  closeItems : ∀ depth, Gaps (layout.closeItems depth)
  colon : Separates ':' layout.colon

theorem gaps_nil : Gaps [] := fun _ h => absurd h List.not_mem_nil

theorem compactLayout_blank : compactLayout.Blank where
  openItems _ := gaps_nil
  nextItem _ := ⟨[], rfl, gaps_nil⟩
  closeItems _ := gaps_nil
  colon := ⟨[], rfl, gaps_nil⟩

theorem gaps_lineAt (depth : Nat) : Gaps (lineAt depth) := by
  intro c hc
  rcases List.mem_cons.1 hc with rfl | hc
  · rfl
  · rw [List.eq_of_mem_replicate hc]
    rfl

theorem indentedLayout_blank : indentedLayout.Blank where
  openItems depth := gaps_lineAt (depth + 1)
  nextItem depth := ⟨lineAt (depth + 1), rfl, gaps_lineAt (depth + 1)⟩
  closeItems depth := gaps_lineAt depth
  colon := ⟨[' '], rfl, fun _ h => by rw [List.eq_of_mem_singleton h]; rfl⟩

/-! ## Entries -/

/-- The characters that an item or a member may start with when it is written. -/
def entryStarts : List Char := ['n', 't', 'f', '\x22', '[', '\x7b']

/-- The text `w` is an entry that the reader `entry` takes for `a`, whatever follows. Its first
character tells it from a gap and from a closing bracket. -/
structure Written {α : Type} (entry : RawText → Except Stop (α × RawText)) (a : α) (w : RawText) :
    Prop where
  reads : ∀ rest, entry (w ++ rest) = .ok (a, rest)
  starts : ∃ c ∈ entryStarts, ∃ tail, w = .scalar c :: tail

section Entries

variable {α : Type} {entry : RawText → Except Stop (α × RawText)} {layout : Layout}

theorem Written.skipGap_append {a : α} {w : RawText} (h : Written entry a w) {gap : Text}
    (hgap : Gaps gap) (rest : RawText) : skipGap (rawOf gap ++ (w ++ rest)) = w ++ rest := by
  obtain ⟨c, hc, tail, rfl⟩ := h.starts
  have visible : ∀ c ∈ entryStarts, isGap (.scalar c) = false := forall_mem_of_all (by decide)
  rw [hgap.skipGap_append]
  exact skipGap_cons (visible c hc) _

theorem Written.length_pos {a : α} {w : RawText} (h : Written entry a w) : 0 < w.length := by
  obtain ⟨c, -, tail, rfl⟩ := h.starts
  exact Nat.succ_pos _

/-- Entries are read up to the closing bracket. Induction on the entries after the first; each
costs one unit of fuel. -/
theorem readEntries_written (blank : layout.Blank) (depth : Nat) {close : Char}
    (hclose : close = ']' ∨ close = '\x7d') {as : List α} {ws : List RawText}
    (h : List.Forall₂ (Written entry) as ws) {a : α} {w : RawText} (hw : Written entry a w)
    (done : List α) (rest : RawText) {fuel : Nat} (enough : as.length < fuel) :
    readEntries close entry fuel done
        (w ++ ((ws.flatMap fun next => rawOf (layout.nextItem depth) ++ next)
          ++ (rawOf (layout.closeItems depth) ++ .scalar close :: rest)))
      = .ok (done.reverse ++ a :: as, rest) := by
  have bracket : isGap (.scalar close) = false ∧ ',' ≠ close := by
    rcases hclose with rfl | rfl <;> decide
  induction h generalizing a w done fuel with
  | nil =>
    obtain ⟨fuel, rfl⟩ := Nat.exists_eq_succ_of_ne_zero (Nat.ne_of_gt enough)
    rw [readEntries, hw.reads]
    dsimp only
    rw [List.flatMap_nil, List.nil_append, (blank.closeItems depth).skipGap_append,
      skipGap_cons bracket.1]
    dsimp only
    rw [if_pos rfl, List.reverse_cons]
  | @cons b v bs vs hv _ ih =>
    obtain ⟨fuel, rfl⟩ := Nat.exists_eq_succ_of_ne_zero (Nat.ne_of_gt (Nat.zero_lt_of_lt enough))
    obtain ⟨gap, hgap, comma⟩ := (blank.nextItem depth).exists_skipGap_append (by decide)
    have enough' : bs.length < fuel := Nat.lt_of_succ_lt_succ enough
    rw [readEntries, hw.reads]
    dsimp only
    rw [List.flatMap_cons]
    simp only [List.append_assoc]
    rw [comma]
    dsimp only
    rw [if_neg bracket.2, if_pos rfl, hv.skipGap_append hgap, ih hv (a :: done) enough',
      List.reverse_cons, List.append_assoc, List.singleton_append]

theorem length_le_length_flatMap {as : List α} {ws : List RawText} (layout : Layout) (depth : Nat)
    (h : List.Forall₂ (Written entry) as ws) :
    as.length ≤ (ws.flatMap fun next => rawOf (layout.nextItem depth) ++ next).length := by
  induction h with
  | nil => exact Nat.le_refl 0
  | cons hw _ ih =>
    have := hw.length_pos
    rw [List.flatMap_cons, List.length_append, List.length_append, List.length_cons]
    omega

/-- What follows an opening bracket is read as the entries that were written in the brackets. -/
theorem exists_readContents_bracketed (blank : layout.Blank) (depth : Nat) (left : Char)
    {close : Char} (hclose : close = ']' ∨ close = '\x7d') {as : List α} {ws : List RawText}
    (h : List.Forall₂ (Written entry) as ws) :
    ∃ body, bracketed layout depth left close ws = .scalar left :: body ∧
      ∀ rest, readContents close entry (body ++ rest) = .ok (as, rest) := by
  cases h with
  | nil =>
    refine ⟨[.scalar close], rfl, fun rest => ?_⟩
    unfold readContents
    have bracket : isGap (.scalar close) = false := by rcases hclose with rfl | rfl <;> rfl
    rw [List.singleton_append, skipGap_cons bracket]
    exact if_pos rfl
  | @cons a w as ws hw hws =>
    obtain ⟨c, hc, tail, htail⟩ := hw.starts
    have hnot : c ≠ close := by
      have apart : ∀ c ∈ entryStarts, c ≠ ']' ∧ c ≠ '\x7d' := forall_mem_of_all (by decide)
      rcases hclose with rfl | rfl
      · exact (apart c hc).1
      · exact (apart c hc).2
    refine ⟨rawOf (layout.openItems depth) ++ (w
      ++ ((ws.flatMap fun next => rawOf (layout.nextItem depth) ++ next)
        ++ (rawOf (layout.closeItems depth) ++ [.scalar close]))), ?_, fun rest => ?_⟩
    · unfold bracketed
      simp [rawOf]
    have items := length_le_length_flatMap layout depth hws
    unfold readContents
    simp only [List.append_assoc, List.singleton_append]
    rw [hw.skipGap_append (blank.openItems depth)]
    have first : ∀ t, w ++ t = .scalar c :: (tail ++ t) := fun t => by rw [htail, List.cons_append]
    rw [first]
    dsimp only
    rw [if_neg hnot, ← first]
    apply readEntries_written blank depth hclose hws hw [] rest
    simp only [List.length_append]
    omega

/-- A value that the reader takes for what stands in brackets is written by writing its entries. -/
theorem Written.bracketed (blank : layout.Blank) (depth : Nat) {left close : Char}
    (hleft : left ∈ entryStarts) (hclose : close = ']' ∨ close = '\x7d')
    {value : RawText → Except Stop (Json × RawText)} {make : List α → Json}
    (hvalue : ∀ t, value (.scalar left :: t)
      = (readContents close entry t).map fun read => (make read.1, read.2))
    {as : List α} {ws : List RawText} (h : List.Forall₂ (Written entry) as ws) :
    Written value (make as) (Json.bracketed layout depth left close ws) := by
  obtain ⟨body, hbody, read⟩ := exists_readContents_bracketed blank depth left hclose h
  refine ⟨fun rest => ?_, ⟨left, hleft, body, hbody⟩⟩
  rw [hbody, List.cons_append, hvalue, read]
  rfl

end Entries

theorem flatMap_bracketed (hf : Respelling f) {layout : Layout} (blank : layout.Blank) (depth : Nat)
    {left right : Char} (hleft : left ≠ '<') (hright : right ≠ '<') (ws : List RawText) :
    (bracketed layout depth left right ws).flatMap f
      = bracketed layout depth left right (ws.map fun w => w.flatMap f) := by
  have nextItem := (blank.nextItem depth).flatMap_rawOf hf (by decide)
  cases ws with
  | nil =>
    apply hf.flatMap_rawOf
    simp [hleft.symm, hright.symm]
  | cons w ws =>
    have opening : '<' ∉ left :: layout.openItems depth := by
      rw [List.mem_cons, not_or]
      exact ⟨hleft.symm, (blank.openItems depth).not_mem_angle⟩
    have closing : '<' ∉ layout.closeItems depth ++ [right] := by
      rw [List.mem_append, List.mem_singleton, not_or]
      exact ⟨(blank.closeItems depth).not_mem_angle, hright.symm⟩
    rw [List.map_cons]
    unfold bracketed
    simp only [List.flatMap_append, List.flatMap_assoc, List.flatMap_map,
      hf.flatMap_rawOf opening, hf.flatMap_rawOf closing, nextItem]

/-! ## Values -/

/-- A value without numbers in which arrays and objects are nested at most so deep. -/
inductive Textual : Nat → Json → Prop
  | null (n : Nat) : Textual n null
  | bool (n : Nat) (b : Bool) : Textual n (bool b)
  | string (n : Nat) (t : RawText) : Textual n (string t)
  | array {n : Nat} {items : List Json} (h : ∀ item ∈ items, Textual n item) :
    Textual (n + 1) (array items)
  | object {n : Nat} {members : List (RawText × Json)} (h : ∀ m ∈ members, Textual n m.2) :
    Textual (n + 1) (object members)

theorem writeItems_eq_map (layout : Layout) (depth : Nat) (items : List Json) :
    writeItems layout depth items = items.map (writeAt layout depth) := by
  induction items with
  | nil => rfl
  | cons item items ih => rw [writeItems, ih, List.map_cons]

theorem writeMembers_eq_map (layout : Layout) (depth : Nat) (members : List (RawText × Json)) :
    writeMembers layout depth members = members.map fun m =>
      stringLiteral m.1 ++ rawOf layout.colon ++ writeAt layout depth m.2 := by
  induction members with
  | nil => rfl
  | cons m members ih => rw [writeMembers, ih, List.map_cons]

/-- A word is read as the value that it stands for. -/
theorem written_word (n : Nat) {c : Char} {tail : Text} {v : Json}
    (hc : c = 'n' ∨ c = 't' ∨ c = 'f')
    (h : ∀ rest, readWord? (rawOf (c :: tail) ++ rest) = some (v, rest)) :
    Written (readValue n) v (rawOf (c :: tail)) where
  reads rest := by
    have word : readWord? (.scalar c :: (rawOf tail ++ rest)) = some (v, rest) := h rest
    show readValue n (.scalar c :: (rawOf tail ++ rest)) = _
    rw [readValue, word]
    all_goals rcases hc with rfl | rfl | rfl <;> simp
  starts := by
    refine ⟨c, ?_, rawOf tail, rfl⟩
    rcases hc with rfl | rfl | rfl <;> decide

theorem readMember_eq_ok {value : RawText → Except Stop (Json × RawText)}
    {body key afterKey tail rest : RawText} {v : Json}
    (hkey : readString (.scalar '\x22' :: body) = .ok (key, afterKey))
    (hcolon : skipGap afterKey = .scalar ':' :: tail)
    (hvalue : value (skipGap tail) = .ok (v, rest)) :
    readMember value (.scalar '\x22' :: body) = .ok ((key, v), rest) := by
  simp only [readMember, hkey, bind, Except.bind, hcolon, hvalue, pure, Except.pure]

theorem Written.member (hf : Respelling f) {layout : Layout} (blank : layout.Blank)
    {value : RawText → Except Stop (Json × RawText)} {v : Json} {w : RawText}
    (hv : Written value v w) (key : RawText) :
    Written (readMember value) (key, v)
      ((stringLiteral key).flatMap f ++ rawOf layout.colon ++ w) := by
  obtain ⟨gap, hgap, colon⟩ := blank.colon.exists_skipGap_append (by decide)
  refine ⟨fun rest => ?_, ?_⟩
  · have value : value (skipGap (rawOf gap ++ (w ++ rest))) = .ok (v, rest) := by
      rw [hv.skipGap_append hgap, hv.reads]
    have read := readString_stringLiteral hf key (rawOf layout.colon ++ (w ++ rest))
    rw [List.append_assoc, List.append_assoc]
    rw [flatMap_stringLiteral hf, List.cons_append] at read ⊢
    exact readMember_eq_ok read (colon _) value
  · rw [flatMap_stringLiteral hf]
    exact ⟨_, by decide, _, rfl⟩

/-- The reader of values undoes the writer, whatever follows. -/
theorem written_writeAt (hf : Respelling f) {layout : Layout} (blank : layout.Blank) {n : Nat}
    {v : Json} (h : Textual n v) (depth : Nat) :
    Written (readValue n) v ((writeAt layout depth v).flatMap f) := by
  induction h generalizing depth with
  | null n =>
    rw [writeAt, hf.flatMap_rawOf (by decide)]
    exact written_word n (Or.inl rfl) fun _ => rfl
  | bool n b =>
    rw [writeAt]
    cases b with
    | true =>
      rw [if_pos rfl, hf.flatMap_rawOf (by decide)]
      exact written_word n (Or.inr (Or.inl rfl)) fun _ => rfl
    | false =>
      rw [if_neg Bool.false_ne_true, hf.flatMap_rawOf (by decide)]
      exact written_word n (Or.inr (Or.inr rfl)) fun _ => rfl
  | string n t =>
    refine ⟨fun rest => ?_, ⟨_, by decide, _, flatMap_stringLiteral hf t⟩⟩
    have read := readString_stringLiteral hf t rest
    rw [writeAt]
    rw [flatMap_stringLiteral hf, List.cons_append] at read ⊢
    rw [readValue]
    rw [read]
    rfl
  | @array n items _ ih =>
    have entries : List.Forall₂ (Written (readValue n)) items
        ((items.map (writeAt layout (depth + 1))).map fun w => w.flatMap f) := by
      rw [List.map_map, List.forall₂_map_right_iff, List.forall₂_same]
      exact fun item hitem => ih item hitem (depth + 1)
    have reader : ∀ t, readValue (n + 1) (.scalar '[' :: t)
        = (readContents ']' (readValue n) t).map fun read => (.array read.1, read.2) := by
      intro t
      rw [readValue]
      cases readContents ']' (readValue n) t <;> rfl
    rw [writeAt, flatMap_bracketed hf blank depth (by decide) (by decide), writeItems_eq_map]
    exact .bracketed blank depth (by decide) (Or.inl rfl) reader entries
  | @object n members _ ih =>
    have entries : List.Forall₂ (Written (readMember (readValue n))) members
        ((members.map fun m => stringLiteral m.1 ++ rawOf layout.colon
          ++ writeAt layout (depth + 1) m.2).map fun w => w.flatMap f) := by
      rw [List.map_map, List.forall₂_map_right_iff, List.forall₂_same]
      intro m hm
      have member := (ih m hm (depth + 1)).member hf blank m.1
      simpa only [Function.comp, List.flatMap_append, blank.colon.flatMap_rawOf hf (by decide)]
        using member
    have reader : ∀ t, readValue (n + 1) (.scalar '\x7b' :: t)
        = (readContents '\x7d' (readMember (readValue n)) t).map
          fun read => (.object read.1, read.2) := by
      intro t
      rw [readValue]
      cases readContents '\x7d' (readMember (readValue n)) t <;> rfl
    rw [writeAt, flatMap_bracketed hf blank depth (by decide) (by decide), writeMembers_eq_map]
    exact .bracketed blank depth (by decide) (Or.inr rfl) reader entries

/-! ## Documents -/

/-- A written value with gaps around it is a document that holds this value. -/
theorem readDocument_writeAt (hf : Respelling f) {layout : Layout} (blank : layout.Blank) {v : Json}
    (h : Textual nestingLimit v) (depth : Nat) {before after : Text} (hbefore : Gaps before)
    (hafter : Gaps after) :
    readDocument (rawOf before ++ ((writeAt layout depth v).flatMap f ++ rawOf after)) = .ok v := by
  have written := written_writeAt hf blank h depth
  have rest : skipGap (rawOf after) = [] := by
    rw [← List.append_nil (rawOf after), hafter.skipGap_append]
    rfl
  have text : readText (rawOf before ++ ((writeAt layout depth v).flatMap f ++ rawOf after))
      = .ok v := by
    unfold readText
    rw [written.skipGap_append hbefore, written.reads]
    simp only [bind, Except.bind, rest, pure, Except.pure]
  -- neither a gap nor the start of a value is a byte order mark
  have noMark : ∀ tail, rawOf before ++ ((writeAt layout depth v).flatMap f ++ rawOf after)
      ≠ .scalar '\ufeff' :: tail := by
    intro tail heq
    cases before with
    | nil =>
      obtain ⟨c, hc, others, hw⟩ := written.starts
      rw [hw] at heq
      have apart : ∀ c ∈ entryStarts, c ≠ '\ufeff' := forall_mem_of_all (by decide)
      exact apart c hc (Point.scalar.inj (List.cons.inj heq).1)
    | cons c before =>
      have hc : c = '\ufeff' := Point.scalar.inj (List.cons.inj heq).1
      exact absurd (hbefore c List.mem_cons_self) (by rw [hc]; decide)
  unfold readDocument
  split
  · next tail heq => exact absurd heq (noMark tail)
  · unfold read
    rw [text]
    rfl

/-- What is written in a layout is read back as it stands. -/
theorem readDocument_writeAt_zero {layout : Layout} (blank : layout.Blank) {v : Json}
    (h : Textual nestingLimit v) : readDocument (writeAt layout 0 v) = .ok v := by
  have read := readDocument_writeAt respelling_singleton blank h 0 gaps_nil gaps_nil
  simpa only [rawOf, List.map_nil, List.nil_append, List.append_nil, List.flatMap_singleton']
    using read

theorem readDocument_compact {v : Json} (h : Textual nestingLimit v) :
    readDocument v.compact = .ok v :=
  readDocument_writeAt_zero compactLayout_blank h

theorem readDocument_indented {v : Json} (h : Textual nestingLimit v) :
    readDocument v.indented = .ok v :=
  readDocument_writeAt_zero indentedLayout_blank h

end GraphScribe.Json
