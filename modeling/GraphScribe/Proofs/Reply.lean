import GraphScribe.Proofs.Service
import GraphScribe.Proofs.Text.Letter

/-!
# Programs in replies

A Markdown fence around a text is found whatever the text holds, fences of its own included, so what
is left of a fenced text is the text without the blanks around it (`content_fenced`). The text of a
program starts with a letter and so is never taken for a fence; a chat model that replies with the
program that the library writes, fenced or not, has generated that program
(`exists_compiled_reply`).

## The architecture

* **`trim_dropFinalNewline`** — the line feed before a closing fence is a blank as any other.
* **`afterOpening?_fenced`**, **`unfenced?_fenced`** — the two ends of a fence.
* **`content_fenced`**, **`content_of_unfenced`** — what is left of a text with a fence and of one
  without.
* **`Conveys`** — the replies that hold a text, and **`program_of_conveys`** for the text of a program.
-/

namespace GraphScribe

/-! ## Final line feeds -/

theorem Text.trim_append_feed (t : Text) : trim (t ++ ['\n']) = trim t := by
  apply trimBy_append_right
  intro c hc
  rw [List.mem_singleton.1 hc]
  rfl

theorem Text.trim_dropFinalNewline (t : Text) : trim (dropFinalNewline t) = trim t := by
  rcases List.eq_nil_or_concat' t with rfl | ⟨front, c, rfl⟩
  · rfl
  · unfold dropFinalNewline
    rw [List.reverse_append, List.reverse_singleton, List.singleton_append]
    by_cases hfeed : c = '\n'
    · subst hfeed
      show trim front.reverse.reverse = _
      rw [List.reverse_reverse, trim_append_feed]
    · split
      · next heq => exact absurd (List.cons.inj heq).1 hfeed
      · rfl

namespace Reply

/-! ## Fences -/

/-- A text in a Markdown fence, with a language tag and further characters on its first line. -/
def fenced (tag margin inner : Text) : Text :=
  fence ++ (tag ++ (margin ++ '\n' :: (inner ++ fence)))

section

variable {tag margin : Text}

/-- The first line of a fence is read to its end, whatever stands below it. -/
theorem afterOpening?_fenced (htag : ∀ c ∈ tag, isTagChar c = true)
    (hmargin : ∀ c ∈ margin, c = ' ' ∨ c = '\t') (inner : Text) :
    afterOpening? (fenced tag margin inner) = some (inner ++ fence) := by
  have opens : fence.isPrefixOf (fenced tag margin inner) = true :=
    List.isPrefixOf_iff_prefix.2 (List.prefix_append _ _)
  have tagged : (tag ++ (margin ++ '\n' :: (inner ++ fence))).dropWhile isTagChar
      = margin ++ '\n' :: (inner ++ fence) := by
    rw [List.dropWhile_append_of_pos htag]
    cases margin with
    | nil => rfl
    | cons c margin =>
      rcases hmargin c List.mem_cons_self with rfl | rfl
      · rfl
      · rfl
  have blank : ∀ c ∈ margin, (c == ' ' || c == '\t') = true := by
    intro c hc
    rw [Bool.or_eq_true, beq_iff_eq, beq_iff_eq]
    exact hmargin c hc
  unfold afterOpening?
  rw [if_pos opens]
  unfold fenced
  dsimp only
  rw [List.drop_left, tagged, List.dropWhile_append_of_pos blank]
  rfl

theorem unfenced?_fenced (htag : ∀ c ∈ tag, isTagChar c = true)
    (hmargin : ∀ c ∈ margin, c = ' ' ∨ c = '\t') (inner : Text) :
    unfenced? (fenced tag margin inner) = some (Text.dropFinalNewline inner) := by
  have closes : fence.isSuffixOf (inner ++ fence) = true :=
    List.isSuffixOf_iff_suffix.2 (List.suffix_append _ _)
  have inside : (inner ++ fence).take ((inner ++ fence).length - fence.length) = inner := by
    rw [List.length_append, Nat.add_sub_cancel, List.take_left]
  unfold unfenced?
  rw [afterOpening?_fenced htag hmargin, Option.bind_some, if_pos closes, inside]

/-! ## What is left of a reply -/

/-- A fence starts and ends with a character that is no blank. -/
theorem trim_fenced {before after : Text} (hbefore : ∀ c ∈ before, isBlankChar c = true)
    (hafter : ∀ c ∈ after, isBlankChar c = true) (tag margin inner : Text) :
    Text.trim (before ++ fenced tag margin inner ++ after) = fenced tag margin inner := by
  have ends : fenced tag margin inner = '\x60' :: (('\x60' :: '\x60' :: (tag
      ++ (margin ++ '\n' :: (inner ++ ['\x60', '\x60'])))) ++ ['\x60']) := by
    simp [fenced, fence]
  unfold Text.trim
  rw [trimBy_append_right hafter, trimBy_append_left hbefore, ends]
  exact trimBy_eq_self (by decide) (by decide) _

/-- What is left of a fenced text is the text without the blanks around it. -/
theorem content_fenced {before after : Text} (hbefore : ∀ c ∈ before, isBlankChar c = true)
    (hafter : ∀ c ∈ after, isBlankChar c = true) (htag : ∀ c ∈ tag, isTagChar c = true)
    (hmargin : ∀ c ∈ margin, c = ' ' ∨ c = '\t') (inner : Text) :
    content (before ++ fenced tag margin inner ++ after) = Text.trim inner := by
  unfold content
  dsimp only
  rw [trim_fenced hbefore hafter, unfenced?_fenced htag hmargin]
  exact inner.trim_dropFinalNewline

end

/-- A text whose first visible character opens no fence is left as it is, but for the blanks around
it. -/
theorem content_of_unfenced {t rest : Text} {c : Char} (h : Text.trim t = c :: rest)
    (hc : c ≠ '\x60') : content t = Text.trim t := by
  have plain : unfenced? (Text.trim t) = none := by
    have closed : ¬ fence.isPrefixOf (Text.trim t) = true := by
      rw [h, List.isPrefixOf_iff_prefix]
      exact fun hprefix => hc (List.cons_prefix_cons.1 hprefix).1.symm
    unfold unfenced? afterOpening?
    rw [if_neg closed]
    rfl
  unfold content
  dsimp only
  rw [plain]

/-! ## Replies that hold a text -/

/-- The reply is the text, or the text in a Markdown fence with a language tag, with any blanks
around it and around the fence. -/
inductive Conveys (code : Text) : Text → Prop
  | bare {reply : Text} (same : Text.trim reply = Text.trim code) : Conveys code reply
  | fenced {before tag margin inner after : Text}
      (blankBefore : ∀ c ∈ before, isBlankChar c = true)
      (tagged : ∀ c ∈ tag, c.isAlphanum = true ∨ c = '_' ∨ c = '+' ∨ c = '-')
      (spaced : ∀ c ∈ margin, c = ' ' ∨ c = '\t')
      (same : Text.trim inner = Text.trim code)
      (blankAfter : ∀ c ∈ after, isBlankChar c = true) :
      Conveys code (before ++ fenced tag margin inner ++ after)

theorem isTagChar_iff (c : Char) :
    isTagChar c = true ↔ c.isAlphanum = true ∨ c = '_' ∨ c = '+' ∨ c = '-' := by
  unfold isTagChar
  simp only [Bool.or_eq_true, beq_iff_eq, or_assoc]

/-- What is left of a reply that holds a text is the text without the blanks around it, unless the
text could itself be taken for a fence. -/
theorem content_of_conveys {code reply rest : Text} {c : Char} (h : Conveys code reply)
    (hcode : Text.trim code = c :: rest) (hc : c ≠ '\x60') : content reply = Text.trim code := by
  cases h with
  | bare same =>
    rw [← same] at hcode ⊢
    exact content_of_unfenced hcode hc
  | fenced blankBefore tagged spaced same blankAfter =>
    rw [← same]
    exact content_fenced blankBefore blankAfter (fun d hd => (isTagChar_iff d).2 (tagged d hd)) spaced _

/-- What is left of a reply, if it is a program, is taken with one line feed. -/
theorem program_eq {reply code : Text} (h : content reply = code) (hprogram : isProgram code = true)
    (hne : code ≠ []) : program (some reply) = .ok (code ++ ['\n']) := by
  cases code with
  | nil => exact absurd rfl hne
  | cons c rest =>
    unfold program
    dsimp only
    rw [Option.getD_some, h, hprogram]
    rfl

end Reply

/-! ## Programs of the library -/

/-- The text of a program, but for its last line feed, has no blanks around it, starts with no
backtick, and has both marks of a program. -/
theorem Plan.exists_trim_source (plan : Plan) (bootstrap : Option Text) :
    ∃ rest, Text.trim (plan.source bootstrap) = 'f' :: rest ∧
      plan.source bootstrap = Text.trim (plan.source bootstrap) ++ ['\n'] ∧
      Reply.isProgram (Text.trim (plan.source bootstrap)) = true := by
  obtain ⟨middle, heq⟩ := plan.exists_source_eq bootstrap
  have opening : "from langgraph.graph import StateGraph, START, END".toList
      = 'f' :: "rom langgraph.graph import StateGraph, START, END".toList := rfl
  have core : Text.trim (plan.source bootstrap)
      = "from langgraph.graph import StateGraph, START, END".toList ++ middle ++ finalization := by
    rw [heq, Text.trim_append_feed, finalization_eq, opening, ← List.append_assoc, List.cons_append,
      List.cons_append, List.cons_append]
    exact trimBy_eq_self (by decide) (by decide) _
  rw [core]
  refine ⟨_, rfl, heq, ?_⟩
  have builds : "StateGraph".toList <:+: "from langgraph.graph import StateGraph, START, END".toList :=
    ⟨"from langgraph.graph import ".toList, ", START, END".toList, rfl⟩
  have compiles : ".compile(".toList <:+: finalization :=
    ⟨"graph = graph_builder".toList, ")".toList, rfl⟩
  unfold Reply.isProgram
  rw [Bool.and_eq_true, contains_iff_infix, contains_iff_infix]
  constructor
  · rw [List.append_assoc]
    exact builds.trans (List.prefix_append _ _).isInfix
  · exact compiles.trans (List.suffix_append _ _).isInfix

/-- A program of the library is taken as it stands from every reply that holds it. -/
theorem Plan.program_of_conveys {plan : Plan} {bootstrap : Option Text} {reply : Text}
    (h : Reply.Conveys (plan.source bootstrap) reply) :
    Reply.program (some reply) = .ok (plan.source bootstrap) := by
  obtain ⟨rest, starts, last, isProgram⟩ := plan.exists_trim_source bootstrap
  have content := Reply.content_of_conveys h starts (by decide)
  have visible : Text.trim (plan.source bootstrap) ≠ [] := by
    rw [starts]
    exact List.cons_ne_nil _ _
  conv_rhs => rw [last]
  exact Reply.program_eq content isProgram visible

/-- A chat model that replies in time, and first with a text that holds a program, generates that
program. -/
def Generator.RepliesWith (generator : Generator) (g : Graph) (reply : Text) : Prop :=
  generator.timeout.isAtMostZero = false ∧
    ∃ others, generator.service (generator.request g)
      = .completion (.message (some reply) :: others)

theorem Generator.outcome_generate {generator : Generator} {g : Graph} {reply code : Text}
    (h : generator.RepliesWith g reply) (hprogram : Reply.program (some reply) = .ok code) :
    (generator.generate g).outcome = .ok code := by
  obtain ⟨live, others, hreply⟩ := h
  rw [generate_of_live live, hreply]
  show (Reply.program (some reply)).mapError Failure.generation = .ok code
  rw [hprogram]
  rfl

/-- The program that an accepted value is compiled to, with any bootstrap fragment, is taken as it
stands from every reply that holds it, bare or in a Markdown fence, whatever its own text holds; so a
chat model that replies with it has generated it. The service never takes it for no program. -/
theorem exists_compiled_reply {strict : Bool} {value : Json} {g : Graph}
    (h : (canonical strict value).outcome = .ok g) (bootstrap : Option Text) :
    ∃ code, (compile strict bootstrap value).outcome = .ok code ∧
      Reply.program (some code) = .ok code ∧
      (∀ tag, (∀ c ∈ tag, c.isAlphanum = true ∨ c = '_' ∨ c = '+' ∨ c = '-') →
        Reply.program (some ("\x60\x60\x60".toList ++ (tag ++ '\n' :: (code ++ "\x60\x60\x60".toList))))
          = .ok code) ∧
      (∀ reply, Reply.Conveys code reply → Reply.program (some reply) = .ok code ∧
        ∀ (generator : Generator) (g' : Graph), generator.RepliesWith g' reply →
          (generator.generate g').outcome = .ok code) ∧
      (writeProgram (.structural bootstrap) g).outcome = .ok code ∧
      (transpile strict (.structural bootstrap) value).outcome = .ok code := by
  obtain ⟨plan, hplan, compiled⟩ := exists_plan_of_canonical h
  have taken : ∀ reply, Reply.Conveys (plan.source bootstrap) reply →
      Reply.program (some reply) = .ok (plan.source bootstrap) :=
    fun reply conveys => Plan.program_of_conveys conveys
  refine ⟨plan.source bootstrap, compiled bootstrap, taken _ (.bare rfl), fun tag htag => ?_,
    fun reply conveys => ⟨taken reply conveys, fun generator g' replies => ?_⟩, ?_, ?_⟩
  · -- no blanks anywhere, and nothing else on the first line
    have bare := taken _ (.fenced (List.forall_mem_nil _) htag (List.forall_mem_nil _) rfl
      (List.forall_mem_nil _))
    rw [List.append_nil] at bare
    exact bare
  · exact Generator.outcome_generate replies (taken reply conveys)
  · rw [writeProgram_structural hplan]
  · rw [outcome_transpile_structural]
    exact compiled bootstrap

/-- The program for `rawConversation`, in a fence with a tag and from a chat model. -/
theorem exists_compiled_reply_conversation :
    ∃ code, (compile false none rawConversation).outcome = .ok code ∧
      Reply.program (some ("\x60\x60\x60".toList ++ ("py".toList ++ '\n' :: (code
        ++ "\x60\x60\x60".toList)))) = .ok code ∧
      ∀ g, ((⟨defaultModel, Binary64.ofNat 60, fun _ => .completion [.message (some code)]⟩
        : Generator).generate g).outcome = .ok code := by
  obtain ⟨code, compiled, -, fenced, conveyed, -, -⟩ :=
    exists_compiled_reply outcome_canonical_rawConversation none
  have tag : ∀ c ∈ "py".toList, c.isAlphanum = true ∨ c = '_' ∨ c = '+' ∨ c = '-' :=
    forall_mem_of_all rfl
  refine ⟨code, compiled, fenced "py".toList tag, fun g => ?_⟩
  exact (conveyed code (.bare rfl)).2 _ g ⟨rfl, [], rfl⟩

end GraphScribe
