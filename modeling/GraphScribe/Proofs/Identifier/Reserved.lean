import GraphScribe.Proofs.Identifier.Fresh
import GraphScribe.Proofs.Identifier.Shape

/-!
# Function names keep out of the way

A slug is compared with the reserved names once, and afterwards `_node` or a number may be glued to
it. Neither makes a reserved name of it, because no reserved name ends in `_node` or in a digit. The
names that are not in lower case are never even compared: a function name starts with a small letter.
So no function takes a name that the language or the program has in use, and none loses its name to a
later one (`assignNames_safe`).
-/

namespace GraphScribe

/-! ## Names in use -/

/-- The keywords that are not in lower case. -/
def capitalKeywords : List String := ["False", "None", "True"]

/-- The names bound in every program that are not in lower case. -/
def capitalBuiltinNames : List String := [
  "ArithmeticError", "AssertionError", "AttributeError", "BaseException", "BaseExceptionGroup",
  "BlockingIOError", "BrokenPipeError", "BufferError", "BytesWarning", "ChildProcessError",
  "ConnectionAbortedError", "ConnectionError", "ConnectionRefusedError", "ConnectionResetError",
  "DeprecationWarning", "EOFError", "Ellipsis", "EncodingWarning", "EnvironmentError",
  "Exception", "ExceptionGroup", "False", "FileExistsError", "FileNotFoundError",
  "FloatingPointError", "FutureWarning", "GeneratorExit", "IOError", "ImportError",
  "ImportWarning", "IndentationError", "IndexError", "InterruptedError", "IsADirectoryError",
  "KeyError", "KeyboardInterrupt", "LookupError", "MemoryError", "ModuleNotFoundError",
  "NameError", "None", "NotADirectoryError", "NotImplemented", "NotImplementedError", "OSError",
  "OverflowError", "PendingDeprecationWarning", "PermissionError", "ProcessLookupError",
  "RecursionError", "ReferenceError", "ResourceWarning", "RuntimeError", "RuntimeWarning",
  "StopAsyncIteration", "StopIteration", "SyntaxError", "SyntaxWarning", "SystemError",
  "SystemExit", "TabError", "TimeoutError", "True", "TypeError", "UnboundLocalError",
  "UnicodeDecodeError", "UnicodeEncodeError", "UnicodeError", "UnicodeTranslateError",
  "UnicodeWarning", "UserWarning", "ValueError", "Warning", "ZeroDivisionError",
  "__build_class__", "__debug__", "__doc__", "__import__", "__loader__", "__name__",
  "__package__", "__spec__"]

/-- The names bound by the import line, the usual bootstrap fragment and the assembly, and the
parameter of every function. -/
def sectionNames : List String := [
  "StateGraph", "START", "END", "Annotated", "TypedDict", "State", "add_messages",
  "init_chat_model", "llm", "graph_builder", "graph", "state"]

/-- The names that no function may have. -/
def namesInUse : List String :=
  keywords ++ capitalKeywords ++ builtinNames ++ capitalBuiltinNames ++ programNames ++ sectionNames

theorem isReserved_eq_true_iff (t : Text) :
    isReserved t = true ↔ ∃ w ∈ keywords ++ programNames ++ builtinNames, w.toList = t := by
  unfold isReserved
  simp only [List.any_eq_true, beq_iff_eq]

/-- A name in use is one that slugs are compared with, or it starts with no small letter. -/
theorem isReserved_or_of_mem_namesInUse {w : String} (h : w ∈ namesInUse) :
    isReserved w.toList = true ∨ ∀ c ∈ w.toList.head?, ¬ IsNameStart c := by
  have capitals : ∀ w ∈ capitalKeywords ++ capitalBuiltinNames,
      (w.toList.head?.all fun c => decide (¬ IsNameStart c)) = true := by decide +kernel
  have sections : ∀ w ∈ sectionNames, w ∈ programNames ∨
      (w.toList.head?.all fun c => decide (¬ IsNameStart c)) = true := by decide +kernel
  have reserved : w ∈ keywords ++ programNames ++ builtinNames → isReserved w.toList = true :=
    fun hw => (isReserved_eq_true_iff _).2 ⟨w, hw, rfl⟩
  unfold namesInUse at h
  simp only [List.mem_append] at h capitals reserved
  rcases h with ((((h | h) | h) | h) | h) | h
  · exact Or.inl (reserved (Or.inl (Or.inl h)))
  · exact Or.inr (forall_mem_of_option_all (capitals w (Or.inl h)))
  · exact Or.inl (reserved (Or.inr h))
  · exact Or.inr (forall_mem_of_option_all (capitals w (Or.inr h)))
  · exact Or.inl (reserved (Or.inl (Or.inr h)))
  · exact (sections w h).imp (fun h => reserved (Or.inl (Or.inr h))) forall_mem_of_option_all

/-! ## No reserved names -/

theorem not_isReserved_append_node (t : Text) : isReserved (t ++ "_node".toList) = false := by
  have endings : ∀ w ∈ keywords ++ programNames ++ builtinNames, ¬ "_node".toList <:+ w.toList := by
    decide +kernel
  rw [Bool.eq_false_iff]
  intro hreserved
  obtain ⟨w, hw, heq⟩ := (isReserved_eq_true_iff _).1 hreserved
  exact endings w hw (heq ▸ List.suffix_append t _)

theorem decimal_ne_nil (n : Nat) : decimal n ≠ [] := by
  show (Nat.repr n).toList ≠ []
  rw [Nat.toList_repr]
  exact Nat.toDigits_ne_nil

theorem not_isReserved_suffixed (base : Text) (n : Nat) : isReserved (suffixed base n) = false := by
  have endings : ∀ w ∈ keywords ++ programNames ++ builtinNames,
      (w.toList.getLast?.all fun c => decide (¬ ('0' ≤ c ∧ c ≤ '9'))) = true := by decide +kernel
  rw [Bool.eq_false_iff]
  intro hreserved
  obtain ⟨w, hw, heq⟩ := (isReserved_eq_true_iff _).1 hreserved
  -- the last digit of the number is the last character of the whole name
  have last : w.toList.getLast? = some ((decimal n).getLast (decimal_ne_nil n)) := by
    have split : suffixed base n = (base ++ ['_']) ++ decimal n := by simp [suffixed]
    rw [heq, split, List.getLast?_append, List.getLast?_eq_some_getLast (decimal_ne_nil n),
      Option.some_or]
  exact forall_mem_of_option_all (endings w hw) _ last (mem_decimal (List.getLast_mem _))

theorem not_isReserved_slug (name : Text) : isReserved (slug name) = false := by
  unfold slug
  dsimp only
  split
  · exact not_isReserved_append_node _
  · next hfree => exact Bool.eq_false_iff.2 hfree

theorem not_isReserved_freeName {base : Text} (h : isReserved base = false) (taken : List Text) :
    isReserved (freeName base taken) = false := by
  rcases freeName_cases base taken with ⟨heq, -⟩ | ⟨m, -, heq, -⟩
  · rwa [heq]
  · rw [heq]
    exact not_isReserved_suffixed base m

theorem not_mem_namesInUse_of_mem_assignNames {names : List Text} {f : Text}
    (h : f ∈ assignNames names) : f ∉ namesInUse.map String.toList := by
  intro hmem
  obtain ⟨w, hw, rfl⟩ := List.mem_map.1 hmem
  rcases isReserved_or_of_mem_namesInUse hw with hreserved | hstart
  · obtain ⟨name, taken, heq⟩ := exists_freeName_of_mem_assignAfter h
    rw [heq, not_isReserved_freeName (not_isReserved_slug name)] at hreserved
    exact Bool.noConfusion hreserved
  · obtain ⟨c, rest, heq, hc, -⟩ := isFunctionName_of_mem_assignNames h
    exact hstart c (by rw [heq]; rfl) hc

/-! ## Later names -/

/-- Names for more steps come behind the names for the first ones. Induction on the first ones; what
they take is all that the later ones see of them. -/
theorem assignAfter_append (taken names more : List Text) :
    ∃ taken', assignAfter taken (names ++ more) = assignAfter taken names ++ assignAfter taken' more := by
  induction names generalizing taken with
  | nil => exact ⟨taken, rfl⟩
  | cons name rest ih =>
    obtain ⟨taken', heq⟩ := ih (freeName (slug name) taken :: taken)
    refine ⟨taken', ?_⟩
    show _ :: assignAfter _ (rest ++ more) = _
    rw [heq]
    rfl

theorem assignNames_prefix (names more : List Text) :
    assignNames names <+: assignNames (names ++ more) := by
  obtain ⟨taken', heq⟩ := assignAfter_append [] names more
  exact ⟨assignAfter taken' more, heq.symm⟩

/-- Function names are safe and stable: as many as there are steps, all distinct, each of them an
identifier that is not in use for anything else, and none of them changed by the steps that come
later. -/
theorem assignNames_safe :
    (∀ names : List Text, (assignNames names).length = names.length ∧ (assignNames names).Nodup ∧
      ∀ f ∈ assignNames names, IsFunctionName f ∧ f ∉ namesInUse.map String.toList) ∧
    ∀ names more : List Text, assignNames names <+: assignNames (names ++ more) := by
  refine ⟨fun names => ⟨length_assignNames names, nodup_assignNames names, fun f hf => ?_⟩,
    assignNames_prefix⟩
  exact ⟨isFunctionName_of_mem_assignNames hf, not_mem_namesInUse_of_mem_assignNames hf⟩

end GraphScribe
