import GraphScribe.Proofs.Numeral
import GraphScribe.Settings.Basic

/-!
# What settings an environment gives

An environment is refused for the fault of a variable, which the fault names with its value (`Refused`);
any other environment gives settings that follow its variables (`Follows`). They are good to use
(`Usable`) but for one thing: a timeout is refused if it is zero or less, and a NaN is neither that nor
above zero (`ofEnvironment_usable`).
-/

namespace GraphScribe

theorem Strategy.ofName?_eq_some_iff {name : Text} {strategy : Strategy} :
    Strategy.ofName? name = some strategy ↔ strategy.name.toList = name := by
  unfold Strategy.ofName?
  constructor
  · intro h
    split at h
    · next heq => cases h; exact heq.symm
    · split at h
      · next heq => cases h; exact heq.symm
      · cases h
  · rintro rfl
    cases strategy with
    | compiler => rfl
    | llm => rfl

namespace Settings

variable {env : Environment} {key : String} {fault : ConfigurationFault}

/-! ## One variable -/

/-- The name of the strategy that an environment asks for. -/
def strategyName (env : Environment) : Text :=
  Text.lower (Text.trim ((env.given? "FLOWGRAPH_STRATEGY").getD "compiler".toList))

theorem readStrategy_eq_ok_iff {strategy : Strategy} :
    readStrategy env = .ok strategy ↔ strategy.name.toList = strategyName env := by
  rw [← Strategy.ofName?_eq_some_iff]
  unfold readStrategy strategyName
  dsimp only
  split
  · next found => rw [found, Except.ok.injEq, Option.some.injEq]
  · next none_found => rw [none_found]; exact iff_of_false nofun nofun

theorem readStrategy_eq_error_iff :
    readStrategy env = .error fault ↔
      (∀ strategy : Strategy, strategy.name.toList ≠ strategyName env) ∧
        fault = .unknownStrategy (strategyName env) := by
  simp only [Ne, ← Strategy.ofName?_eq_some_iff, ← Option.eq_none_iff_forall_ne_some]
  unfold readStrategy strategyName
  dsimp only
  split
  · next found => rw [found]; exact iff_of_false nofun nofun
  · next none_found => rw [none_found, Except.error.injEq, eq_self, true_and, eq_comm]

/-- A quantity is the default if none is given, and else the given number unless that is at most
zero. -/
theorem readPositive_eq_ok_iff {default value : Binary64} :
    readPositive env key default = .ok value ↔
      env.given? key = none ∧ value = default ∨
        ∃ given, env.given? key = some given ∧ Numeral.binary64? given = some value ∧
          ¬ value.AtMostZero := by
  simp only [← Binary64.isAtMostZero_iff]
  unfold readPositive
  split
  · next absent =>
    simp only [absent, Except.ok.injEq, true_and, reduceCtorEq, false_and, exists_false, or_false]
    exact eq_comm
  · next given present =>
    simp only [present, Option.some.injEq, exists_eq_left', reduceCtorEq, false_and, false_or]
    split
    · next unread => simp only [unread, reduceCtorEq, false_and]
    · next number read =>
      rw [read, Option.some.injEq]
      split
      · next low => exact iff_of_false nofun fun h => h.2 (h.1 ▸ low)
      · next high =>
        rw [Except.ok.injEq]
        exact ⟨fun h => ⟨h, h ▸ high⟩, And.left⟩

theorem readPositive_eq_error_iff {default : Binary64} :
    readPositive env key default = .error fault ↔ ∃ given, env.given? key = some given ∧
      (Numeral.binary64? given = none ∧ fault = .notNumber key given ∨
        ∃ value, Numeral.binary64? given = some value ∧ value.AtMostZero ∧
          fault = .notPositive key given) := by
  simp only [← Binary64.isAtMostZero_iff, @eq_comm _ fault]
  unfold readPositive
  split
  · next absent => simp [absent]
  · next given present =>
    split
    · next unread => simp [present, unread]
    · next number read =>
      split
      · next low => simp [present, read, low]
      · next high => simp [present, read, high]

/-- A number of times is the default if none is given, and else the given number unless that is
negative. -/
theorem readCount_eq_ok_iff {default count : Nat} :
    readCount env key default = .ok count ↔
      env.given? key = none ∧ count = default ∨
        ∃ given, env.given? key = some given ∧ Numeral.integer? given = some (count : Int) := by
  unfold readCount
  split
  · next absent =>
    simp only [absent, Except.ok.injEq, true_and, reduceCtorEq, false_and, exists_false, or_false]
    exact eq_comm
  · next given present =>
    simp only [present, Option.some.injEq, exists_eq_left', reduceCtorEq, false_and, false_or]
    split
    · next unread => simp only [unread, reduceCtorEq]
    · next number read =>
      rw [read, Option.some.injEq]
      split
      · next low => exact iff_of_false nofun (by omega)
      · next high =>
        rw [Except.ok.injEq]
        omega

theorem readCount_eq_error_iff {default : Nat} :
    readCount env key default = .error fault ↔ ∃ given, env.given? key = some given ∧
      (Numeral.integer? given = none ∧ fault = .notInteger key given ∨
        ∃ value, Numeral.integer? given = some value ∧ value < 0 ∧ fault = .negative key given) := by
  simp only [@eq_comm _ fault]
  unfold readCount
  split
  · next absent => simp [absent]
  · next given present =>
    split
    · next unread => simp [present, unread]
    · next number read =>
      split
      · next low => simp [present, read, low]
      · next high => simp [present, read, high]

/-! ## All of them -/

/-- What is wrong with an environment, if anything is. -/
inductive Refused (env : Environment) : ConfigurationFault → Prop
  | unknownStrategy (unknown : ∀ strategy : Strategy, strategy.name.toList ≠ strategyName env) :
      Refused env (.unknownStrategy (strategyName env))
  | timeoutUnread {given : Text} (present : env.given? "FLOWGRAPH_TIMEOUT" = some given)
      (unread : Numeral.binary64? given = none) : Refused env (.notNumber "FLOWGRAPH_TIMEOUT" given)
  | timeoutLow {given : Text} {value : Binary64}
      (present : env.given? "FLOWGRAPH_TIMEOUT" = some given)
      (read : Numeral.binary64? given = some value) (low : value.AtMostZero) :
      Refused env (.notPositive "FLOWGRAPH_TIMEOUT" given)
  | retriesUnread {given : Text} (present : env.given? "FLOWGRAPH_MAX_RETRIES" = some given)
      (unread : Numeral.integer? given = none) :
      Refused env (.notInteger "FLOWGRAPH_MAX_RETRIES" given)
  | retriesLow {given : Text} {value : Int}
      (present : env.given? "FLOWGRAPH_MAX_RETRIES" = some given)
      (read : Numeral.integer? given = some value) (low : value < 0) :
      Refused env (.negative "FLOWGRAPH_MAX_RETRIES" given)

/-- What is wrong with an environment is what one of the readers finds wrong with it. -/
theorem refused_iff :
    Refused env fault ↔ readStrategy env = .error fault ∨
      readPositive env "FLOWGRAPH_TIMEOUT" (Binary64.ofNat 60) = .error fault ∨
      readCount env "FLOWGRAPH_MAX_RETRIES" 2 = .error fault := by
  rw [readStrategy_eq_error_iff, readPositive_eq_error_iff, readCount_eq_error_iff]
  constructor
  · rintro (unknown | ⟨present, unread⟩ | ⟨present, read, low⟩ | ⟨present, unread⟩ |
      ⟨present, read, low⟩)
    · exact .inl ⟨unknown, rfl⟩
    · exact .inr (.inl ⟨_, present, .inl ⟨unread, rfl⟩⟩)
    · exact .inr (.inl ⟨_, present, .inr ⟨_, read, low, rfl⟩⟩)
    · exact .inr (.inr ⟨_, present, .inl ⟨unread, rfl⟩⟩)
    · exact .inr (.inr ⟨_, present, .inr ⟨_, read, low, rfl⟩⟩)
  · rintro (⟨unknown, rfl⟩ | ⟨given, present, ⟨unread, rfl⟩ | ⟨value, read, low, rfl⟩⟩ |
      ⟨given, present, ⟨unread, rfl⟩ | ⟨value, read, low, rfl⟩⟩)
    · exact .unknownStrategy unknown
    · exact .timeoutUnread present unread
    · exact .timeoutLow present read low
    · exact .retriesUnread present unread
    · exact .retriesLow present read low

/-- The settings say what the variables of the environment say, or the default where a variable is
not there or empty. -/
structure Follows (env : Environment) (s : Settings) : Prop where
  strategy : s.strategy.name.toList = strategyName env
  timeout : env.given? "FLOWGRAPH_TIMEOUT" = none ∧ s.timeout = Binary64.ofNat 60 ∨
    ∃ given, env.given? "FLOWGRAPH_TIMEOUT" = some given ∧
      Numeral.binary64? given = some s.timeout ∧ ¬ s.timeout.AtMostZero
  maxRetries : env.given? "FLOWGRAPH_MAX_RETRIES" = none ∧ s.maxRetries = 2 ∨
    ∃ given, env.given? "FLOWGRAPH_MAX_RETRIES" = some given ∧
      Numeral.integer? given = some (s.maxRetries : Int)
  apiKey : s.apiKey = env.given? "OPENAI_API_KEY"
  model : s.model = (env.given? "FLOWGRAPH_MODEL").getD "gpt-4.1-mini".toList
  logLevel : s.logLevel = Text.upper ((env.given? "FLOWGRAPH_LOG_LEVEL").getD "INFO".toList)
  corsOrigins : s.corsOrigins = originsIn ((env.given? "FLOWGRAPH_CORS_ORIGINS").getD ['*'])

/-- An environment gives settings exactly if they follow it. -/
theorem ofEnvironment_eq_ok_iff {s : Settings} : ofEnvironment env = .ok s ↔ Follows env s := by
  unfold ofEnvironment
  simp only [bind_eq_ok_iff, readStrategy_eq_ok_iff, readPositive_eq_ok_iff, readCount_eq_ok_iff]
  constructor
  · rintro ⟨strategy, hstrategy, timeout, htimeout, maxRetries, hmaxRetries, heq⟩
    cases heq
    exact ⟨hstrategy, htimeout, hmaxRetries, rfl, rfl, rfl, rfl⟩
  · intro h
    refine ⟨s.strategy, h.strategy, s.timeout, h.timeout, s.maxRetries, h.maxRetries, ?_⟩
    rw [← h.apiKey, ← h.model, ← h.logLevel, ← h.corsOrigins]
    rfl

/-- An environment is refused for something that is wrong with it, and gives settings only if nothing
is. -/
theorem ofEnvironment_cases (env : Environment) :
    (∃ fault, ofEnvironment env = .error fault ∧ Refused env fault) ∨
      ∃ s, ofEnvironment env = .ok s ∧ ∀ fault, ¬ Refused env fault := by
  simp only [refused_iff]
  unfold ofEnvironment
  cases readStrategy env with
  | error fault => exact .inl ⟨fault, rfl, .inl rfl⟩
  | ok strategy =>
    cases readPositive env "FLOWGRAPH_TIMEOUT" (Binary64.ofNat 60) with
    | error fault => exact .inl ⟨fault, rfl, .inr (.inl rfl)⟩
    | ok timeout =>
      cases readCount env "FLOWGRAPH_MAX_RETRIES" 2 with
      | error fault => exact .inl ⟨fault, rfl, .inr (.inr rfl)⟩
      | ok maxRetries => exact .inr ⟨_, rfl, fun fault h => by simp at h⟩

/-! ## Use -/

/-- A text that is there and has no blanks around it. -/
def IsOrigin (origin : Text) : Prop := origin ≠ [] ∧ Text.trim origin = origin

/-- The settings can be used, as far as texts go. -/
structure Usable (s : Settings) : Prop where
  model : s.model ≠ []
  corsOrigins : ∀ origin ∈ s.corsOrigins, IsOrigin origin

theorem isOrigin_of_mem_originsIn {list origin : Text} (h : origin ∈ originsIn list) :
    IsOrigin origin := by
  obtain ⟨hmem, present⟩ := List.mem_filter.1 h
  obtain ⟨part, -, rfl⟩ := List.mem_map.1 hmem
  refine ⟨?_, trimBy_trimBy _ part⟩
  intro empty
  rw [empty] at present
  exact absurd present (by decide)

/-- A value that is given is not empty. -/
theorem ne_nil_of_given? {given : Text} (h : env.given? key = some given) : given ≠ [] := by
  rintro rfl
  have kept := (Option.filter_eq_some_iff.1 h).2
  exact absurd kept (by decide)

theorem Follows.usable {s : Settings} (h : Follows env s) : Usable s := by
  constructor
  · rw [h.model]
    cases given : env.given? "FLOWGRAPH_MODEL" with
    | none => exact List.cons_ne_nil _ _
    | some model => exact ne_nil_of_given? given
  · rw [h.corsOrigins]
    exact fun origin => isOrigin_of_mem_originsIn

/-- The timeout that is in force without one given. -/
theorem aboveZero_ofNat_sixty : (Binary64.ofNat 60).AboveZero :=
  (Binary64.isPositive_iff _).1 (by decide)

/-- Settings have a timeout above zero, unless the given one spells a NaN. -/
theorem Follows.aboveZero_iff {s : Settings} (h : Follows env s) :
    s.timeout.AboveZero ↔ ¬ ∃ given negative, env.given? "FLOWGRAPH_TIMEOUT" = some given ∧
      Numeral.SpellsNan negative given := by
  simp only [← Numeral.binary64?_eq_nan_iff]
  rcases h.timeout with ⟨absent, default⟩ | ⟨given, present, read, high⟩
  · rw [default]
    refine iff_of_true aboveZero_ofNat_sixty ?_
    rintro ⟨given, -, present, -⟩
    rw [absent] at present
    cases present
  · rw [Binary64.aboveZero_iff, and_iff_right high]
    simp only [present, Option.some.injEq, exists_and_left, exists_eq_left', read, not_exists, Ne]

/-- An environment is refused for a fault in it, or it gives settings that follow it and that can be
used, with one exception: their timeout is above zero if and only if the environment gives none that
spells a NaN. -/
theorem ofEnvironment_usable (env : Environment) :
    (∃ fault, ofEnvironment env = .error fault ∧ Refused env fault) ∨
      ∃ s, ofEnvironment env = .ok s ∧ (∀ fault, ¬ Refused env fault) ∧ Follows env s ∧ Usable s ∧
        (s.timeout.AboveZero ↔ ¬ ∃ given negative, env.given? "FLOWGRAPH_TIMEOUT" = some given ∧
          Numeral.SpellsNan negative given) := by
  rcases ofEnvironment_cases env with refused | ⟨s, loaded, accepted⟩
  · exact .inl refused
  · have follows := ofEnvironment_eq_ok_iff.1 loaded
    exact .inr ⟨s, loaded, accepted, follows, follows.usable, follows.aboveZero_iff⟩

/-- A timeout that is spelled as a NaN is accepted, though it is not above zero. -/
theorem nanTimeout_accepted : ∃ s,
    ofEnvironment [("FLOWGRAPH_TIMEOUT".toList, "nan".toList)] = .ok s ∧ ¬ s.timeout.AboveZero := by
  refine ⟨⟨.compiler, none, "gpt-4.1-mini".toList, .nan false, 2, "INFO".toList, [['*']]⟩,
    by decide, ?_⟩
  rw [← Binary64.isPositive_iff]
  exact Bool.false_ne_true

end Settings

end GraphScribe
