import GraphScribe.Proofs.Graph.Rules
import GraphScribe.Proofs.Program.Dedent

/-!
# Separators in code

Cleaning takes most line ends out of code and leaves four in: the line feed, the carriage return, and
the line and paragraph separators U+2028 and U+2029. The last two end a line of a body like the others.
Clean code that holds neither of the first two stays in one piece exactly if it holds no separator
(`bodyLines_of_cleanCode`).
-/

namespace GraphScribe

/-! ## Line ends in clean text -/

/-- Is `c` the line separator or the paragraph separator? -/
def isSeparator (c : Char) : Bool := c == '\u2028' || c == '\u2029'

/-- Clean text has only four characters that end a line. -/
theorem isLineBreak_eq_isSeparator {t : Text} {c : Char} (hc : c ∈ Text.multiline t)
    (hfeed : c ≠ '\n') (hreturn : c ≠ '\r') : Text.isLineBreak c = isSeparator c := by
  have clean := (List.mem_filter.1 hc).2
  have feed : c.toNat ≠ 10 := fun heq => hfeed (Char.toNat_inj.1 heq)
  have carriageReturn : c.toNat ≠ 13 := fun heq => hreturn (Char.toNat_inj.1 heq)
  have tab : c = '\t' ↔ c.toNat = 9 := Char.toNat_inj.symm
  have lineSeparator : c = '\u2028' ↔ c.toNat = 0x2028 := Char.toNat_inj.symm
  have paragraphSeparator : c = '\u2029' ↔ c.toNat = 0x2029 := Char.toNat_inj.symm
  unfold Text.isControlChar at clean
  unfold Text.isLineBreak isSeparator
  simp only [Bool.or_eq_true, Bool.not_eq_true', Bool.or_eq_false_iff, Bool.and_eq_false_iff,
    beq_iff_eq, decide_eq_false_iff_not, hfeed, hreturn, or_false, tab] at clean
  rw [Bool.eq_iff_iff]
  simp only [Bool.or_eq_true, Bool.and_eq_true, decide_eq_true_eq, beq_iff_eq, lineSeparator,
    paragraphSeparator]
  omega

theorem isLineBreak_of_isSeparator {c : Char} (h : isSeparator c = true) :
    Text.isLineBreak c = true := by
  unfold isSeparator at h
  rw [Bool.or_eq_true, beq_iff_eq, beq_iff_eq] at h
  rcases h with rfl | rfl
  · rfl
  · rfl

theorem isIndent_of_isSeparator {c : Char} (h : isSeparator c = true) : Text.isIndent c = false := by
  unfold isSeparator at h
  rw [Bool.or_eq_true, beq_iff_eq, beq_iff_eq] at h
  rcases h with rfl | rfl
  · rfl
  · rfl

/-! ## One line of code -/

/-- Clean code is what cleaning leaves of some text, and not blank. -/
theorem exists_multiline_of_cleanCode {value : Json} {code : Text}
    (h : cleanCode value = .ok (some (rawOf code))) :
    (∃ t, code = Text.multiline t) ∧ Text.isBlank code = false := by
  rcases (cleanCode_eq_ok_iff value (some code)).1 h with ⟨-, hnone⟩ | ⟨t, -, hblank | hcode⟩
  · exact absurd hnone (by simp)
  · exact absurd hblank.2 (by simp)
  · obtain ⟨hkept, -, heq⟩ := hcode
    injection heq with heq
    refine ⟨⟨t, heq⟩, Bool.eq_false_iff.2 fun hblank => hkept ?_⟩
    rw [← heq]
    exact (Text.trim_eq_nil_iff code).2 hblank

theorem isBlank_dropWhile_isIndent (t : Text) :
    Text.isBlank (t.dropWhile Text.isIndent) = Text.isBlank t := by
  rw [Text.dropWhile_isIndent_eq_drop]
  exact Text.isBlank_drop (List.takeWhile_prefix _) (Text.isBlank_indentation t)

/-- Indentation has no part in whether a line is a statement. -/
theorem isStatement_dropWhile_isIndent (t : Text) :
    isStatement (t.dropWhile Text.isIndent) = isStatement t := by
  have blanks : (t.dropWhile Text.isIndent).dropWhile isBlankChar = t.dropWhile isBlankChar := by
    conv_rhs => rw [← List.takeWhile_append_dropWhile (p := Text.isIndent) (l := t)]
    exact (List.dropWhile_append_of_pos (List.all_eq_true.1 (Text.isBlank_indentation t))).symm
  unfold isStatement
  rw [blanks]

/-- The function of a step with a single line of code. -/
theorem functionBlock_of_line {p : PlannedNode} {line : Text} (hstep : p.isStep = true)
    (hbody : bodyLines p.code = [line]) (hline : Text.isBlank line = false) :
    functionBlock p = [functionHeader p.function, "    ".toList ++ line]
      ++ (if isStatement line then [] else ["    ".toList ++ notImplementedStatement p.name])
      ++ [[], []] := by
  have deep : bodyLine line = "    ".toList ++ line := by
    refine if_neg fun hempty => ?_
    rw [List.isEmpty_iff.1 hempty] at hline
    exact absurd hline (by decide)
  have statement : hasStatement [line] = isStatement line := Bool.or_false _
  have said : bodyLine (notImplementedStatement p.name)
      = "    ".toList ++ notImplementedStatement p.name := rfl
  rw [functionBlock_eq hstep]
  unfold functionBody
  simp only [hbody, statement]
  split
  · rw [List.map_singleton, deep]
    rfl
  · rw [List.map_append, List.map_singleton, List.map_singleton, deep, said]
    rfl

/-- The lines of code that knows no other line ends than separators. It is one line exactly if it holds
none, and then its function holds that line, and below it nothing but what is said of a function without
a statement. -/
structure SeparatedLines (code : Text) : Prop where
  parts : bodyLines (some code)
    = trimBy Text.isBlank (splitWhere isSeparator (code.dropWhile Text.isIndent))
  whole_iff :
    bodyLines (some code) = [code.dropWhile Text.isIndent] ↔ ∀ c ∈ code, isSeparator c = false
  function : (∀ c ∈ code, isSeparator c = false) →
    ∀ p : PlannedNode, p.isStep = true → p.code = some code →
      functionBlock p = [functionHeader p.function, "    ".toList ++ code.dropWhile Text.isIndent]
        ++ (if isStatement code then [] else ["    ".toList ++ notImplementedStatement p.name])
        ++ [[], []]

section

variable {value : Json} {code : Text} (hclean : cleanCode value = .ok (some (rawOf code)))
  (hfeed : '\n' ∉ code) (hreturn : '\r' ∉ code)

include hclean hfeed hreturn

theorem bodyLines_eq_trimBy_splitWhere : bodyLines (some code)
    = trimBy Text.isBlank (splitWhere isSeparator (code.dropWhile Text.isIndent)) := by
  obtain ⟨⟨t, rfl⟩, -⟩ := exists_multiline_of_cleanCode hclean
  have inside : ∀ c ∈ (Text.multiline t).dropWhile Text.isIndent, c ∈ Text.multiline t :=
    fun c hc => (List.dropWhile_suffix _).subset hc
  have breaks : ∀ c ∈ (Text.multiline t).dropWhile Text.isIndent,
      Text.isLineBreak c = isSeparator c := by
    intro c hc
    exact isLineBreak_eq_isSeparator (inside c hc) (fun heq => hfeed (heq ▸ inside c hc))
      (fun heq => hreturn (heq ▸ inside c hc))
  show trimBy _ (Text.lines (Text.dedent _)) = _
  rw [Text.dedent_of_not_mem hfeed, Text.trimBy_lines fun hmem => hreturn (inside _ hmem),
    splitWhere_congr breaks]

/-- Clean code is one line exactly if it holds no separator. -/
theorem bodyLines_eq_singleton_iff :
    bodyLines (some code) = [code.dropWhile Text.isIndent] ↔ ∀ c ∈ code, isSeparator c = false := by
  constructor
  · intro heq c hc
    by_contra hseparator
    rw [Bool.not_eq_false] at hseparator
    have inside : c ∈ code.dropWhile Text.isIndent := by
      rw [← List.takeWhile_append_dropWhile (p := Text.isIndent) (l := code)] at hc
      refine (List.mem_append.1 hc).resolve_left fun hfront => ?_
      have indent := List.mem_takeWhile_imp hfront
      rw [isIndent_of_isSeparator hseparator] at indent
      exact Bool.noConfusion indent
    have kept : code.dropWhile Text.isIndent ∈ Text.lines (Text.dedent code) :=
      mem_of_mem_trimBy (heq ▸ List.mem_singleton_self _ : _ ∈ bodyLines (some code))
    have unbroken := Text.not_isLineBreak_of_mem_lines _ _ kept c inside
    rw [isLineBreak_of_isSeparator hseparator] at unbroken
    exact Bool.noConfusion unbroken
  · intro none_there
    have stays : ∀ c ∈ code.dropWhile Text.isIndent, isSeparator c = false :=
      fun c hc => none_there c ((List.dropWhile_suffix _).subset hc)
    have solid : Text.isBlank (code.dropWhile Text.isIndent) = false := by
      rw [isBlank_dropWhile_isIndent]
      exact (exists_multiline_of_cleanCode hclean).2
    rw [bodyLines_eq_trimBy_splitWhere hclean hfeed hreturn, splitWhere_eq_singleton stays]
    simp [trimBy, solid]

/-- Clean code without line feeds and carriage returns is cut at its separators and nowhere else. -/
theorem bodyLines_of_cleanCode : SeparatedLines code := by
  have whole := bodyLines_eq_singleton_iff hclean hfeed hreturn
  refine ⟨bodyLines_eq_trimBy_splitWhere hclean hfeed hreturn, whole, ?_⟩
  intro none_there p hstep hcode
  rw [← isStatement_dropWhile_isIndent code]
  apply functionBlock_of_line hstep
  · rw [hcode]
    exact whole.2 none_there
  · rw [isBlank_dropWhile_isIndent]
    exact (exists_multiline_of_cleanCode hclean).2

end

/-- A comment with a separator in it. -/
def splitComment : Text := "# see below\u2028import os".toList

theorem bodyLines_of_cleanCode_splitComment :
    cleanCode (.text splitComment) = .ok (some (rawOf splitComment)) ∧ '\n' ∉ splitComment ∧
      '\r' ∉ splitComment ∧ SeparatedLines splitComment :=
  have clean : cleanCode (.text splitComment) = .ok (some (rawOf splitComment)) := rfl
  have feed : '\n' ∉ splitComment := by decide +kernel
  have carriageReturn : '\r' ∉ splitComment := by decide +kernel
  ⟨clean, feed, carriageReturn, bodyLines_of_cleanCode clean feed carriageReturn⟩

/-- What stands behind the separator is no comment any more, and the body has a statement that the code
did not have. -/
theorem splitComment_broken :
    cleanCode (.text splitComment) = .ok (some (rawOf splitComment)) ∧ '\n' ∉ splitComment ∧
      '\r' ∉ splitComment ∧
      bodyLines (some splitComment) ≠ [splitComment.dropWhile Text.isIndent] ∧
      isStatement splitComment = false ∧ hasStatement (bodyLines (some splitComment)) = true :=
  ⟨rfl, by decide +kernel, by decide +kernel, by decide +kernel, rfl, by decide +kernel⟩

end GraphScribe
