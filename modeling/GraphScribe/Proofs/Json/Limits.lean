import GraphScribe.Proofs.Json.Complete

/-!
# Texts beyond the limits

Where the reader stops at a limit, the text is large: it opens more brackets than the reader has depth
for, or it has more digits in a row than a whole number may have (`overlarge_of_read`). It does stop so
at any tower of opening brackets that is high enough (`read_tower`), though no tower is JSON.
-/

namespace GraphScribe.Json

/-- Is it an opening bracket of an array or an object? -/
def isOpening (p : Point) : Bool := p == .scalar '[' || p == .scalar '\x7b'

/-- More opening brackets than a depth allows, or more digits in a row than a whole number may have. -/
def Overlarge (depth : Nat) (t : RawText) : Prop :=
  depth < t.countP isOpening ∨
    ∃ run, run <:+: t ∧ IsDigits run ∧ wholeDigitLimit < run.length

theorem Overlarge.of_suffix {depth : Nat} {s t : RawText} (h : Overlarge depth s) (hst : s <:+ t) :
    Overlarge depth t := by
  rcases h with h | ⟨run, hrun, rest⟩
  · exact Or.inl (Nat.lt_of_lt_of_le h hst.sublist.countP_le)
  · exact Or.inr ⟨run, hrun.trans hst.isInfix, rest⟩

/-- One more bracket before a text makes up for one more level of depth. -/
theorem Overlarge.opening {depth : Nat} {t : RawText} (h : Overlarge depth t) {p : Point}
    (hp : isOpening p = true) : Overlarge (depth + 1) (p :: t) := by
  rcases h with h | ⟨run, hrun, rest⟩
  · refine Or.inl ?_
    rw [List.countP_cons_of_pos hp]
    exact Nat.succ_lt_succ h
  · exact Or.inr ⟨run, List.infix_cons hrun, rest⟩

theorem skipGap_suffix (t : RawText) : skipGap t <:+ t := List.dropWhile_suffix isGap

/-- Where an outcome is a limit, the text is too large for the depth. -/
abbrev Excuses {α : Type} (depth : Nat) (t : RawText) : Except Stop α → Prop :=
  FailsAs fun stop => stop.IsLimit → Overlarge depth t

theorem excuses_departure {α : Type} (depth : Nat) (t : RawText) (wanted : Departure)
    (rest : RawText) : Excuses depth t (.error (.departure wanted rest) : Except Stop α) :=
  failsAs_error fun limit => absurd limit not_false

/-- What is too large in a suffix is too large in the whole. -/
theorem excuses_of_suffix {α : Type} {outcome : Except Stop α} {depth : Nat} {s t : RawText}
    (h : Excuses depth s outcome) (hst : s <:+ t) : Excuses depth t outcome :=
  fun stop hstop limit => (h stop hstop limit).of_suffix hst

/-- A part of the reader stops at a limit only in texts that are too large for the depth. -/
def Blames {α : Type} (reader : RawText → Except Stop (α × RawText)) (depth : Nat) : Prop :=
  ∀ t, Excuses depth t (reader t)

/-! ## Leaves -/

/-- Strings have no limit. -/
theorem excuses_piecesFrom (depth : Nat) (t whole : RawText) (done : List Piece) (s : RawText) :
    Excuses depth t (piecesFrom whole done s) := by
  fun_induction piecesFrom whole done s with
  | case2 _ _ _ _ _ _ _ _ _ ih => exact ih
  | case7 _ _ _ _ _ _ _ ih => exact ih
  | case9 => exact failsAs_ok _
  | case11 _ _ _ _ _ _ _ _ _ _ ih => exact ih
  | case12 _ _ _ ih => exact ih
  | _ => exact excuses_departure _ _ _ _

theorem blames_readString (depth : Nat) : Blames readString depth := fun t =>
  (excuses_piecesFrom depth t t [] _).bind fun _ => failsAs_ok _

theorem blames_readNumber (depth : Nat) : Blames readNumber depth := by
  intro t
  obtain ⟨-, hunsigned⟩ := splitMinus_spec t
  obtain ⟨hafterWhole, hwhole⟩ := wholePart_spec (splitMinus t).2
  have within : (wholePart (splitMinus t).2).1 <:+: t := by
    refine ⟨(splitMinus t).1, (wholePart (splitMinus t).2).2, ?_⟩
    rw [List.append_assoc, ← hafterWhole, ← hunsigned]
  unfold readNumber
  dsimp only
  split
  · exact excuses_departure _ _ _ _
  next hempty =>
  split
  · next hlong =>
    rw [Bool.and_eq_true, decide_eq_true_eq] at hlong
    rw [List.isEmpty_iff] at hempty
    refine failsAs_error fun _ => Or.inr ⟨_, within, ?_, hlong.2⟩
    -- a single zero is not too long
    rcases hwhole hempty with hzero | ⟨digits, -⟩
    · rw [hzero] at hlong
      exact absurd hlong.2 (by decide)
    · exact digits
  · exact failsAs_ok _

/-! ## Brackets -/

theorem tail_suffix {after t tail : RawText} {c : Char} (h : after <:+ t)
    (hskip : skipGap after = .scalar c :: tail) : skipGap tail <:+ t := by
  have here : .scalar c :: tail <:+ t := hskip ▸ (skipGap_suffix after).trans h
  exact (skipGap_suffix tail).trans ((List.suffix_cons _ tail).trans here)

section

variable {α : Type} {entry : RawText → Except Stop (α × RawText)} {rule : RawText → Prop}
  (sound : Yields entry rule) {depth : Nat} (blames : Blames entry depth)

include sound blames

/-- Induction on the fuel; the next entry starts in what is left behind a comma. -/
theorem excuses_readEntries {close : Char} {fuel : Nat} (done : List α) (t : RawText) :
    Excuses depth t (readEntries close entry fuel done t) := by
  induction fuel generalizing done t with
  | zero => exact excuses_departure _ _ _ _
  | succ fuel ih =>
    unfold readEntries
    split
    · next stop h => exact failsAs_error (blames t stop h)
    next a after hentry =>
    obtain ⟨w, -, rfl⟩ := sound _ _ _ hentry
    split
    · next c tail hskip =>
      have later : skipGap tail <:+ w ++ after := tail_suffix (List.suffix_append w after) hskip
      exact (failsAs_ok _).ite <| (excuses_of_suffix (ih _ _) later).ite <|
        excuses_departure _ _ _ _
    · exact excuses_departure _ _ _ _

theorem excuses_readContents {close : Char} (t : RawText) :
    Excuses depth t (readContents close entry t) := by
  have series : ∀ {fuel start}, skipGap t = start →
      Excuses depth t (readEntries close entry fuel [] start) := by
    rintro fuel start rfl
    exact excuses_of_suffix (excuses_readEntries sound blames _ _) (skipGap_suffix t)
  unfold readContents
  split
  · next c tail hskip => exact (failsAs_ok _).ite (series hskip)
  · exact series rfl

end

theorem blames_readMember {value : RawText → Except Stop (Json × RawText)} {depth : Nat}
    (blames : Blames value depth) : Blames (readMember value) depth := by
  intro t
  unfold readMember
  split
  · next body =>
    refine (blames_readString depth (.scalar '\x22' :: body)).bind_of_ok fun (name, after) hname => ?_
    obtain ⟨w, -, heq⟩ := exists_string_of_readString hname
    dsimp only
    split
    · next tail hcolon =>
      have later : skipGap tail <:+ .scalar '\x22' :: body :=
        tail_suffix (heq ▸ List.suffix_append w after) hcolon
      exact (excuses_of_suffix (blames _) later).bind fun read => failsAs_ok _
    · exact excuses_departure _ _ _ _
  · exact excuses_departure _ _ _ _

theorem excuses_brackets {α : Type} {p : Point} (hp : isOpening p = true) {depth : Nat} {t : RawText}
    {contents : Except Stop (α × RawText)} {wrap : α → Json} (h : Excuses depth t contents) :
    Excuses (depth + 1) (p :: t) (contents >>= fun read => .ok (wrap read.1, read.2)) := by
  have opened : Excuses (depth + 1) (p :: t) contents :=
    fun stop hstop limit => (h stop hstop limit).opening hp
  exact opened.bind fun read => failsAs_ok _

theorem excuses_nesting {α : Type} {p : Point} (hp : isOpening p = true) (container : Container)
    (t : RawText) : Excuses 0 (p :: t) (.error (.nesting container) : Except Stop α) := by
  refine failsAs_error fun _ => Or.inl ?_
  rw [List.countP_cons_of_pos hp]
  exact Nat.succ_pos _

theorem blames_readValue_of {depth : Nat} (inner : ∀ d, depth = d + 1 → Blames (readValue d) d) :
    Blames (readValue depth) depth := by
  intro t
  unfold readValue
  split
  · next tail =>
    exact (blames_readString depth (.scalar '\x22' :: tail)).bind fun read => failsAs_ok _
  · split
    · exact excuses_nesting rfl .array _
    next d =>
    exact excuses_brackets rfl (excuses_readContents (yields_readValue d) (inner d rfl) _)
  · split
    · exact excuses_nesting rfl .object _
    next d =>
    exact excuses_brackets rfl (excuses_readContents (yields_readMember (yields_readValue d))
      (blames_readMember (inner d rfl)) _)
  · split
    · exact failsAs_ok _
    · exact blames_readNumber depth t

/-- Induction on the depth that is left; a bracket that is opened takes one level of it. -/
theorem blames_readValue (depth : Nat) : Blames (readValue depth) depth := by
  induction depth with
  | zero => exact blames_readValue_of fun d hd => nomatch hd
  | succ depth ih =>
    refine blames_readValue_of fun d hd => ?_
    cases hd
    exact ih

/-- A text at which the reader stops at a limit is too large. -/
theorem overlarge_of_read {t : RawText} {fault : Fault} (h : read t = .error fault)
    (limit : fault.IsLimit) : Overlarge nestingLimit t := by
  have text : Excuses nestingLimit t (readText t) := by
    have value := excuses_of_suffix (blames_readValue nestingLimit _) (skipGap_suffix t)
    refine value.bind fun read => ?_
    dsimp only
    split
    · exact failsAs_ok _
    · exact excuses_departure _ _ _ _
  unfold read at h
  cases hread : readText t with
  | ok v =>
    rw [hread] at h
    cases h
  | error stop =>
    rw [hread] at h
    cases h
    exact text stop hread ((Stop.isLimit_inText_iff t stop).1 limit)

/-! ## Towers -/

/-- Opening brackets on top of each other, and nothing else. -/
def tower (height : Nat) : RawText := List.replicate height (.scalar '[')

theorem skipGap_tower (height : Nat) : skipGap (tower height) = tower height := by
  cases height with
  | zero => rfl
  | succ height => exact skipGap_cons (by decide) _

/-- A failure at the first entry is the failure of the whole. -/
theorem readContents_tower {α : Type} {entry : RawText → Except Stop (α × RawText)} {height : Nat}
    {stop : Stop} (h : entry (tower (height + 1)) = .error stop) :
    readContents ']' entry (tower (height + 1)) = .error stop := by
  unfold readContents
  rw [skipGap_tower]
  rw [tower, List.replicate_succ] at h ⊢
  dsimp only
  rw [if_neg (by decide), readEntries, h]

/-- More brackets than the depth allows are too many. Induction on the depth. -/
theorem readValue_tower {depth height : Nat} (h : depth < height) :
    readValue depth (tower height) = .error (.nesting .array) := by
  obtain ⟨height, rfl⟩ := Nat.exists_eq_succ_of_ne_zero (Nat.ne_zero_of_lt h)
  induction depth generalizing height with
  | zero => rfl
  | succ depth ih =>
    obtain ⟨height, rfl⟩ :=
      Nat.exists_eq_succ_of_ne_zero (Nat.ne_zero_of_lt (Nat.lt_of_succ_lt_succ h))
    have inner := readContents_tower (ih height (Nat.lt_of_succ_lt_succ h))
    -- the brackets above the first one are its contents, one level deeper
    rw [tower, List.replicate_succ, readValue]
    show (readContents ']' (readValue depth) (tower (height + 1)) >>= _) = _
    rw [inner]
    rfl

theorem read_tower {height : Nat} (h : nestingLimit < height) :
    read (tower height) = .error (.nesting .array) := by
  unfold read readText
  rw [skipGap_tower, readValue_tower h]
  rfl

/-- A tower is no JSON: nothing closes its brackets, and nothing stands on it. -/
theorem not_isDocument_tower (height : Nat) : ¬ IsDocument (tower height) := by
  rintro ⟨levels, gap, w, gap', -, hw, -, heq⟩
  have brackets : ∀ p ∈ w, p = .scalar '[' := fun p hp => by
    have within : p ∈ tower height := by
      rw [heq]
      exact List.mem_append_right _ (List.mem_append_left _ hp)
    exact List.eq_of_mem_replicate within
  -- a value without brackets has another first character, one with brackets another last one
  have bare : ¬ StartsBare w := by
    rintro ⟨c, tail, rfl, hc⟩
    cases brackets _ List.mem_cons_self
    exact hc (by decide)
  cases levels with
  | zero => exact hw
  | succ levels =>
    cases hw with
    | string h =>
      obtain ⟨pieces, -, rfl⟩ := h
      cases brackets _ List.mem_cons_self
    | number h => exact bare (startsBare_of_isNumber h)
    | word h => exact bare (startsBare_of_isWord h)
    | array h => cases brackets (.scalar ']') (by simp)
    | object h => cases brackets _ List.mem_cons_self

end GraphScribe.Json
