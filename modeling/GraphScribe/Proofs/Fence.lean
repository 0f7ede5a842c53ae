import GraphScribe.Proofs.Reply
import GraphScribe.Proofs.Text.Pattern

/-!
# Fences around replies

The fence around a reply is found by its two ends. The pattern that describes a fence goes another way:
it walks from the first line on and stops where a closing fence and nothing but blanks follow. On a text
without blanks around it both find the same (`match?_fencePattern`), since no fence inside is followed by
nothing but blanks. So a reply is taken without the fence that encloses it, whatever it holds, and any
other reply as it stands (`program_unfences`).

## The architecture

* **`eq_of_match?_closing`** — the end of the pattern matches in two places at most.
* **`match?_walk`** — the walk to the closing fence, by what stands before that fence.
* **`Encloses`** — the replies that hold a text in a fence, with **`content_of_encloses`** and
  **`content_of_not_encloses`**.
* **`Yields`** — what becomes of what is left of a reply.
-/

namespace GraphScribe

/-! ## Final line feeds -/

theorem Text.dropFinalNewline_append (t : Text) : dropFinalNewline (t ++ ['\n']) = t := by
  unfold dropFinalNewline
  rw [List.reverse_append, List.reverse_singleton, List.singleton_append]
  exact t.reverse_reverse

theorem Text.dropFinalNewline_of_not_mem {t : Text} (h : '\n' ∉ t.getLast?) :
    dropFinalNewline t = t := by
  unfold dropFinalNewline
  split
  · next rest heq =>
    refine absurd ?_ h
    rw [List.getLast?_eq_head?_reverse, heq]
    rfl
  · rfl

namespace Reply

/-! ## The pattern of a fence -/

/-- Is the character one that may stand between the language tag and the end of its line? -/
def isMargin (c : Char) : Bool := c == ' ' || c == '\t'

theorem margin_eq : (fun c : Char => c == ' ' || c == '\t') = isMargin := rfl

/-- What closes a fence: the fence after a line feed or none, and blanks up to the end of the text. -/
def closing : List Pattern.Piece := [.maybe ['\n'], .word fence, .most isBlankChar, .textEnd]

/-- A text in a fence. Of the characters between the first line and the closing fence the fifth piece
takes as few as possible. -/
def fencePattern : List Pattern.Piece :=
  [.word fence, .most isTagChar, .most isMargin, .word ['\n'], .fewest fun _ => true] ++ closing

/-- No blank at the end of a text. -/
def Solid (t : Text) : Prop := ∀ c ∈ t.getLast?, isBlankChar c = false

theorem Solid.of_suffix {t rest : Text} (h : Solid t) (hsuffix : rest <:+ t) : Solid rest := by
  obtain ⟨front, rfl⟩ := hsuffix
  intro c hc
  apply h c
  rw [List.getLast?_append, Option.mem_def.1 hc]
  rfl

theorem Solid.eq_nil {front back : Text} (h : Solid (front ++ back))
    (hback : ∀ c ∈ back, isBlankChar c = true) : back = [] := by
  rcases List.eq_nil_or_concat' back with hnil | ⟨others, c, rfl⟩
  · exact hnil
  · have last := h c (by rw [← List.append_assoc, List.getLast?_concat]; rfl)
    rw [hback c (List.mem_append_right _ List.mem_cons_self)] at last
    cases last

/-- What closes a fence is, in a text without blanks at its end, all that is left. -/
theorem eq_of_match?_closing {t : Text} (h : Solid t) {parts : List Text}
    (hmatch : Pattern.match? closing t = some parts) : t = '\n' :: fence ∨ t = fence := by
  obtain ⟨gap, hgap, parts, hmatch, -⟩ := Pattern.exists_way_of_match? hmatch
  obtain ⟨word, hword, parts, hmatch, -⟩ := Pattern.exists_way_of_match? hmatch
  obtain ⟨blanks, hblanks, parts, hmatch, -⟩ := Pattern.exists_way_of_match? hmatch
  obtain ⟨stop, hstop, -, -, -⟩ := Pattern.exists_way_of_match? hmatch
  obtain ⟨gapped, rfl⟩ := Pattern.mem_maybeWays_iff.1 hgap
  obtain ⟨-, closed⟩ := Pattern.mem_wordWays_iff.1 hword
  obtain ⟨left, blank⟩ := Pattern.mem_cuts (List.mem_reverse.1 hblanks)
  obtain ⟨ended, -⟩ := Pattern.mem_textEndWays_iff.1 hstop
  have rest : ∀ c ∈ word.2, isBlankChar c = true := by
    rw [← left, List.forall_mem_append]
    refine ⟨blank, ?_⟩
    rcases ended with hnil | hfeed
    · rw [hnil]
      exact List.forall_mem_nil _
    · rw [hfeed]
      exact forall_mem_of_all rfl
  have none_left : word.2 = [] := by
    rw [← closed, ← List.append_assoc] at h
    exact h.eq_nil rest
  rw [← closed, none_left, List.append_nil]
  rcases gapped with hfeed | hnone
  · rw [hfeed]
    exact .inl rfl
  · rw [hnone]
    exact .inr rfl

theorem solid_append_fence (t : Text) : Solid (t ++ fence) := by
  intro c hc
  have last : (t ++ fence).getLast? = some '\x60' := by
    rw [List.getLast?_append]
    rfl
  rw [Option.mem_def, last] at hc
  rw [← Option.some.inj hc]
  rfl

/-- The walk to a closing fence stops there: what it has passed is not followed by blanks alone. -/
theorem match?_closing_eq_none {tail : Text} (hne : tail ≠ []) (hfeed : tail ≠ ['\n']) :
    Pattern.match? closing (tail ++ fence) = none := by
  rw [Option.eq_none_iff_forall_ne_some]
  intro parts hparts
  rcases eq_of_match?_closing (solid_append_fence tail) hparts with heq | heq
  · exact hfeed (List.append_cancel_right (heq : tail ++ fence = ['\n'] ++ fence))
  · exact hne (List.append_cancel_right (heq : tail ++ fence = [] ++ fence))

/-- A line feed in front of the closing fence belongs to what closes it. -/
theorem match?_walk_of_feed (front : Text) :
    Pattern.match? (.fewest (fun _ => true) :: closing) (front ++ ('\n' :: fence))
      = some [front, ['\n'], fence, [], []] := by
  refine Pattern.match?_fewest_append (fun _ _ => rfl) (fun tail _ hne => ?_) rfl
  rw [List.append_cons]
  refine match?_closing_eq_none (by simp) fun heq => ?_
  exact hne (List.append_cancel_right (heq : tail ++ ['\n'] = [] ++ ['\n']))

theorem match?_walk_of_no_feed {inner : Text} (h : '\n' ∉ inner.getLast?) :
    Pattern.match? (.fewest (fun _ => true) :: closing) (inner ++ fence)
      = some [inner, [], fence, [], []] := by
  refine Pattern.match?_fewest_append (fun _ _ => rfl) (fun tail htail hne => ?_) rfl
  refine match?_closing_eq_none hne fun heq => h ?_
  obtain ⟨front, rfl⟩ := htail
  rw [heq, List.getLast?_concat]
  rfl

theorem match?_walk_eq_none {t : Text} (h : Solid t) (hopen : ¬ fence <:+ t) :
    Pattern.match? (.fewest (fun _ => true) :: closing) t = none := by
  refine Pattern.match?_eq_none fun rest hrest => ?_
  rw [Option.eq_none_iff_forall_ne_some]
  intro parts hparts
  apply hopen
  rcases eq_of_match?_closing (h.of_suffix hrest) hparts with rfl | rfl
  · exact (List.suffix_cons _ _).trans hrest
  · exact hrest

/-- The walk to the closing fence leaves out one line feed in front of it. -/
theorem match?_walk {t : Text} (h : Solid t) :
    (Pattern.match? (.fewest (fun _ => true) :: closing) t).bind List.head?
      = if fence.isSuffixOf t then some (Text.dropFinalNewline (t.take (t.length - fence.length)))
        else none := by
  by_cases hclosed : fence <:+ t
  · rw [if_pos (List.isSuffixOf_iff_suffix.2 hclosed)]
    obtain ⟨inner, rfl⟩ := hclosed
    rw [List.length_append, Nat.add_sub_cancel, List.take_left]
    by_cases hfeed : '\n' ∈ inner.getLast?
    · obtain ⟨front, rfl⟩ := List.getLast?_eq_some_iff.1 hfeed
      rw [List.append_assoc, List.singleton_append, match?_walk_of_feed, Text.dropFinalNewline_append]
      rfl
    · rw [match?_walk_of_no_feed hfeed, Text.dropFinalNewline_of_not_mem hfeed]
      rfl
  · rw [if_neg (mt List.isSuffixOf_iff_suffix.1 hclosed), match?_walk_eq_none h hclosed]
    rfl

/-! ### The first line -/

theorem match?_margin {pieces : List Pattern.Piece} (t : Text) :
    Pattern.match? (.most isMargin :: .word ['\n'] :: pieces) t
      = (Pattern.match? (.word ['\n'] :: pieces) (t.dropWhile isMargin)).map
          (t.takeWhile isMargin :: ·) := by
  refine Pattern.match?_most (fun c rest hc => Pattern.match?_word_eq_none fun hstart => ?_) t
  rw [← (List.cons_prefix_cons.1 hstart).1] at hc
  exact absurd hc (by decide)

theorem match?_tag {pieces : List Pattern.Piece} (t : Text) :
    Pattern.match? (.most isTagChar :: .most isMargin :: .word ['\n'] :: pieces) t
      = (Pattern.match? (.most isMargin :: .word ['\n'] :: pieces) (t.dropWhile isTagChar)).map
          (t.takeWhile isTagChar :: ·) := by
  refine Pattern.match?_most (fun c rest hc => ?_) t
  -- a character of a tag is neither a blank nor a line feed
  have tagged : ∀ d : Char, isTagChar d = false → c ≠ d := by
    rintro d hd rfl
    rw [hd] at hc
    cases hc
  have stays : isMargin c = false := by
    unfold isMargin
    rw [beq_false_of_ne (tagged ' ' rfl), beq_false_of_ne (tagged '\t' rfl)]
    rfl
  rw [match?_margin, List.dropWhile_cons_of_neg (by rw [stays]; exact Bool.false_ne_true),
    Pattern.match?_word_eq_none fun hstart => tagged '\n' rfl (List.cons_prefix_cons.1 hstart).1.symm]
  rfl

/-- The first pieces of the pattern read the first line of a fence. -/
theorem match?_opening {pieces : List Pattern.Piece} (t : Text) :
    (Pattern.match?
        (.word fence :: .most isTagChar :: .most isMargin :: .word ['\n'] :: pieces) t).map
        (List.drop 4)
      = (afterOpening? t).bind (Pattern.match? pieces) := by
  unfold afterOpening?
  split
  · next hopens =>
    obtain ⟨rest, rfl⟩ := List.isPrefixOf_iff_prefix.1 hopens
    dsimp only
    rw [Pattern.match?_word_append, match?_tag, match?_margin, List.drop_left]
    rw [margin_eq]
    split
    · next rest' heq =>
      have feed : Pattern.match? (.word ['\n'] :: pieces) ('\n' :: rest')
          = (Pattern.match? pieces rest').map (['\n'] :: ·) := Pattern.match?_word_append _ _
      rw [heq, feed, Option.bind_some]
      cases Pattern.match? pieces rest' <;> rfl
    · next hother =>
      rw [Pattern.match?_word_eq_none]
      · rfl
      · rintro ⟨rest', heq⟩
        exact hother rest' heq.symm
  · next hother =>
    rw [Pattern.match?_word_eq_none (mt List.isPrefixOf_iff_prefix.2 hother)]
    rfl

/-- The first line of a fence: the fence, a language tag and blanks. -/
theorem exists_opening {t rest : Text} (h : afterOpening? t = some rest) :
    ∃ tag margin, (∀ c ∈ tag, isTagChar c = true) ∧ (∀ c ∈ margin, c = ' ' ∨ c = '\t') ∧
      t = fence ++ (tag ++ (margin ++ '\n' :: rest)) := by
  unfold afterOpening? at h
  split at h
  · next hopens =>
    obtain ⟨after, rfl⟩ := List.isPrefixOf_iff_prefix.1 hopens
    dsimp only at h
    rw [List.drop_left, margin_eq] at h
    split at h
    · next rest' heq =>
      injection h with h
      subst h
      refine ⟨after.takeWhile isTagChar, (after.dropWhile isTagChar).takeWhile isMargin,
        fun c hc => List.mem_takeWhile_imp hc, fun c hc => ?_, ?_⟩
      · have blank := List.mem_takeWhile_imp hc
        unfold isMargin at blank
        rwa [Bool.or_eq_true, beq_iff_eq, beq_iff_eq] at blank
      · rw [← heq, List.takeWhile_append_dropWhile, List.takeWhile_append_dropWhile]
    · cases h
  · cases h

/-- In a text without blanks at its end the pattern finds the fence that its two ends tell. -/
theorem match?_fencePattern {t : Text} (h : Solid t) :
    (Pattern.match? fencePattern t).bind (·[4]?) = unfenced? t := by
  have fifth : ∀ parts : List Text, parts[4]? = (parts.drop 4).head? := by
    intro parts
    rw [List.head?_drop]
  have opened := @match?_opening (.fewest (fun _ => true) :: closing) t
  calc (Pattern.match? fencePattern t).bind (·[4]?)
      = ((Pattern.match? fencePattern t).map (List.drop 4)).bind List.head? := by
        rw [Option.bind_map]
        exact congrArg _ (funext fifth)
    _ = ((afterOpening? t).bind (Pattern.match? (.fewest (fun _ => true) :: closing))).bind
          List.head? := congrArg (Option.bind · List.head?) opened
    _ = unfenced? t := by
        unfold unfenced?
        rw [Option.bind_assoc]
        cases hopening : afterOpening? t with
        | none => rfl
        | some rest =>
          obtain ⟨tag, margin, -, -, rfl⟩ := exists_opening hopening
          have inside : rest <:+ fence ++ (tag ++ (margin ++ '\n' :: rest)) :=
            ⟨fence ++ (tag ++ (margin ++ ['\n'])), by simp⟩
          exact match?_walk (h.of_suffix inside)

/-! ## Replies in a fence -/

/-- The reply is the text in a fence with a language tag: blanks on the first line, a line feed or none
in front of the closing fence, and any blanks around it all. -/
inductive Encloses (p : Text) : Text → Prop
  | fence {before tag margin gap after : Text}
      (blankBefore : ∀ c ∈ before, isBlankChar c = true)
      (tagged : ∀ c ∈ tag, c.isAlphanum = true ∨ c = '_' ∨ c = '+' ∨ c = '-')
      (spaced : ∀ c ∈ margin, c = ' ' ∨ c = '\t')
      (feed : gap = [] ∨ gap = ['\n'])
      (blankAfter : ∀ c ∈ after, isBlankChar c = true) :
      Encloses p (before ++ ("\x60\x60\x60".toList ++ tag ++ margin ++ ['\n'] ++ p ++ gap
        ++ "\x60\x60\x60".toList) ++ after)

theorem fenced_eq (tag margin inner : Text) :
    "\x60\x60\x60".toList ++ tag ++ margin ++ ['\n'] ++ inner ++ "\x60\x60\x60".toList
      = fenced tag margin inner := by
  simp [fenced, fence]

/-- The fence that encloses a text is found. -/
theorem unfenced?_of_encloses {p reply : Text} (h : Encloses p reply) :
    ∃ inner, unfenced? (Text.trim reply) = some inner ∧ Text.trim inner = Text.trim p := by
  cases h with
  | @fence before tag margin gap after blankBefore tagged spaced feed blankAfter =>
    have blankGap : ∀ c ∈ gap, isBlankChar c = true := by
      rcases feed with rfl | rfl
      · exact List.forall_mem_nil _
      · exact forall_mem_of_all rfl
    refine ⟨Text.dropFinalNewline (p ++ gap), ?_, ?_⟩
    · rw [List.append_assoc _ p gap, fenced_eq, trim_fenced blankBefore blankAfter]
      exact unfenced?_fenced (fun c hc => (isTagChar_iff c).2 (tagged c hc)) spaced _
    · rw [Text.trim_dropFinalNewline]
      exact trimBy_append_right blankGap p

/-- What is found inside a fence is enclosed by it. -/
theorem exists_encloses {reply inner : Text} (h : unfenced? (Text.trim reply) = some inner) :
    ∃ p, Encloses p reply := by
  unfold unfenced? at h
  obtain ⟨rest, hopening, hclosing⟩ := Option.bind_eq_some_iff.1 h
  obtain ⟨tag, margin, tagged, spaced, opened⟩ := exists_opening hopening
  split at hclosing
  · next hclosed =>
    obtain ⟨p, rfl⟩ := List.isSuffixOf_iff_suffix.1 hclosed
    refine ⟨p, ?_⟩
    have whole := trimBy_append isBlankChar reply
    rw [show trimBy isBlankChar reply = _ from opened] at whole
    have shape : fence ++ (tag ++ (margin ++ '\n' :: (p ++ fence)))
        = "\x60\x60\x60".toList ++ tag ++ margin ++ ['\n'] ++ p ++ [] ++ "\x60\x60\x60".toList := by
      rw [List.append_nil, fenced_eq]
      rfl
    rw [whole, shape]
    exact .fence (fun c hc => List.mem_takeWhile_imp hc) (fun c hc => (isTagChar_iff c).1 (tagged c hc))
      spaced (.inl rfl) fun c hc => List.mem_takeWhile_imp (List.mem_reverse.1 hc)
  · cases hclosing

theorem content_of_encloses {p reply : Text} (h : Encloses p reply) : content reply = Text.trim p := by
  obtain ⟨inner, found, same⟩ := unfenced?_of_encloses h
  unfold content
  dsimp only
  rw [found]
  exact same

theorem content_of_not_encloses {reply : Text} (h : ∀ p, ¬ Encloses p reply) :
    content reply = Text.trim reply := by
  unfold content
  dsimp only
  cases hinner : unfenced? (Text.trim reply) with
  | none => rfl
  | some inner =>
    obtain ⟨p, hp⟩ := exists_encloses hinner
    exact absurd hp (h p)

/-- What is left of a reply has no blanks at its ends. -/
theorem trim_content (reply : Text) : Text.trim (content reply) = content reply := by
  unfold content
  dsimp only
  split
  · exact trimBy_trimBy _ _
  · exact trimBy_trimBy _ _

/-! ## What becomes of a reply -/

/-- The text builds a graph and compiles it. -/
def HasMarks (code : Text) : Prop := "StateGraph".toList <:+: code ∧ ".compile(".toList <:+: code

theorem isProgram_iff (code : Text) : isProgram code = true ↔ HasMarks code := by
  unfold isProgram
  rw [Bool.and_eq_true, contains_iff_infix, contains_iff_infix]
  rfl

theorem HasMarks.ne_nil {code : Text} (h : HasMarks code) : code ≠ [] := by
  rintro rfl
  exact absurd (List.infix_nil.1 h.1) (by decide)

/-- What becomes of a reply of which a text is left: the text with a line feed, if it has the marks of a
program, and a failed generation otherwise. -/
structure Yields (reply code : Text) : Prop where
  taken : HasMarks code → program (some reply) = .ok (code ++ ['\n'])
  refused : ¬ HasMarks code → ∃ fault, program (some reply) = .error fault

theorem program_of_not_hasMarks {reply : Text} (h : ¬ HasMarks (content reply)) :
    ∃ fault, program (some reply) = .error fault := by
  have other : (!isProgram (content reply)) = true := by
    rw [Bool.not_eq_true', Bool.eq_false_iff]
    exact fun hprogram => h ((isProgram_iff _).1 hprogram)
  unfold program
  dsimp only
  rw [Option.getD_some, if_pos other]
  split
  · exact ⟨_, rfl⟩
  · exact ⟨_, rfl⟩

theorem yields_content (reply : Text) : Yields reply (content reply) where
  taken h := program_eq rfl ((isProgram_iff _).2 h) h.ne_nil
  refused h := program_of_not_hasMarks h

/-- A program is what is left of a reply, and has the marks of one. -/
theorem program_eq_ok_iff {reply taken : Text} :
    program (some reply) = .ok taken ↔ HasMarks (content reply) ∧ taken = content reply ++ ['\n'] := by
  constructor
  · intro h
    by_cases marked : HasMarks (content reply)
    · rw [(yields_content reply).taken marked, Except.ok.injEq] at h
      exact ⟨marked, h.symm⟩
    · obtain ⟨fault, heq⟩ := program_of_not_hasMarks marked
      rw [heq] at h
      cases h
  · rintro ⟨marked, rfl⟩
    exact (yields_content reply).taken marked

/-- A program that has been taken from a reply: a line feed behind a text that is not empty, has no blank
at either end and the marks of a program. It is taken again as it stands, unless it is itself in a
fence. -/
structure Taken (taken code : Text) : Prop where
  ends : taken = code ++ ['\n']
  ne_nil : code ≠ []
  first : ∀ c ∈ code.head?, isBlankChar c = false
  last : ∀ c ∈ code.getLast?, isBlankChar c = false
  marked : HasMarks code
  again : (∀ p, ¬ Encloses p taken) → program (some taken) = .ok taken

theorem taken_content {reply taken : Text} (h : program (some reply) = .ok taken) :
    Taken taken (content reply) := by
  obtain ⟨marked, rfl⟩ := program_eq_ok_iff.1 h
  have trimmed := trim_content reply
  constructor
  case ends => rfl
  case ne_nil => exact marked.ne_nil
  case first =>
    rw [← trimmed]
    exact fun c hc => not_of_mem_head?_trimBy hc
  case last =>
    rw [← trimmed]
    exact fun c hc => not_of_mem_getLast?_trimBy hc
  case marked => exact marked
  case again =>
    intro bare
    have same : content (content reply ++ ['\n']) = content reply := by
      rw [content_of_not_encloses bare, Text.trim_append_feed, trimmed]
    rw [program_eq_ok_iff, same]
    exact ⟨marked, rfl⟩

/-- A reply that encloses a text in a fence yields the text without the blanks around it, whatever the
text holds and ends with; any other reply yields itself without the blanks around it. What a reply
yields is taken with one line feed if it has the marks of a program, and fails as a generation if it
does not, as an absent reply does. The fence that is taken away is the one that its pattern finds. -/
theorem program_unfences :
    (∀ p reply, Encloses p reply → Yields reply (Text.trim p)) ∧
      (∀ reply, (∀ p, ¬ Encloses p reply) → Yields reply (Text.trim reply)) ∧
      (∃ fault, program none = .error fault) ∧
      (∀ reply taken, program (some reply) = .ok taken → ∃ code, Taken taken code) ∧
      ∀ reply, content reply
        = (((Pattern.match? fencePattern (Text.trim reply)).bind (·[4]?)).map Text.trim).getD
            (Text.trim reply) := by
  refine ⟨fun p reply h => ?_, fun reply h => ?_, ⟨_, rfl⟩, fun reply taken h => ⟨_, taken_content h⟩,
    fun reply => ?_⟩
  · rw [← content_of_encloses h]
    exact yields_content reply
  · rw [← content_of_not_encloses h]
    exact yields_content reply
  · have solid : Solid (Text.trim reply) := fun c hc => not_of_mem_getLast?_trimBy hc
    rw [match?_fencePattern solid]
    unfold content
    dsimp only
    cases unfenced? (Text.trim reply) <;> rfl

/-- A text that holds a fence and ends with a backtick, in a fence; and a program without one. -/
theorem program_unfences_nested :
    program (some " \x60\x60\x60py \nStateGraph\n\x60\x60\x60\n.compile(\x60\n\x60\x60\x60\n".toList)
        = .ok "StateGraph\n\x60\x60\x60\n.compile(\x60\n".toList ∧
      program (some "\tStateGraph.compile()".toList) = .ok "StateGraph.compile()\n".toList := by
  obtain ⟨inside, outside, -, -, -⟩ := program_unfences
  have marked : ∀ code : Text, isProgram code = true → HasMarks code := fun code => (isProgram_iff code).1
  constructor
  · refine (inside "StateGraph\n\x60\x60\x60\n.compile(\x60".toList _ ?_).taken (marked _ rfl)
    exact @Encloses.fence _ [' '] "py".toList [' '] ['\n'] ['\n'] (forall_mem_of_all rfl)
      (forall_mem_of_all rfl) (forall_mem_of_all rfl) (.inr rfl) (forall_mem_of_all rfl)
  · refine (outside "\tStateGraph.compile()".toList fun p hp => ?_).taken (marked _ rfl)
    obtain ⟨inner, found, -⟩ := unfenced?_of_encloses hp
    cases found

end Reply

end GraphScribe
