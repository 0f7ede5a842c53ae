import GraphScribe.Failure
import GraphScribe.Number.Numeral
import GraphScribe.Text.Case

/-!
# Settings

The settings of a deployment, read from its environment variables. A variable that is absent or
empty leaves the default in force; any other value is used or refused.
-/

namespace GraphScribe

/-- Environment variables by name; the first one of a name counts. -/
abbrev Environment := List (Text × Text)

namespace Environment

/-- The value of a variable, if the variable is there. -/
def get? (env : Environment) (key : String) : Option Text := env.lookup key.toList

/-- The value of a variable, if the variable is there and not empty. -/
def given? (env : Environment) (key : String) : Option Text :=
  (env.get? key).filter fun value => !value.isEmpty

end Environment

/-- What writes the program: the library itself, or a chat model. -/
inductive Strategy where
  | compiler
  | llm
  deriving DecidableEq

def Strategy.name : Strategy → String
  | compiler => "compiler"
  | llm => "llm"

def Strategy.ofName? (name : Text) : Option Strategy :=
  if name = "compiler".toList then some compiler
  else if name = "llm".toList then some llm
  else none

structure Settings where
  strategy : Strategy
  apiKey : Option Text
  model : Text
  timeout : Binary64
  maxRetries : Nat
  logLevel : Text
  corsOrigins : List Text
  deriving DecidableEq

namespace Settings

/-- The names of the variables that the settings are read from. -/
def variableNames : List String := [
  "FLOWGRAPH_STRATEGY", "OPENAI_API_KEY", "FLOWGRAPH_MODEL", "FLOWGRAPH_TIMEOUT",
  "FLOWGRAPH_MAX_RETRIES", "FLOWGRAPH_LOG_LEVEL", "FLOWGRAPH_CORS_ORIGINS"]

/-- The strategy that an environment asks for. -/
def readStrategy (env : Environment) : Except ConfigurationFault Strategy :=
  let name := Text.lower (Text.trim ((env.given? "FLOWGRAPH_STRATEGY").getD "compiler".toList))
  match Strategy.ofName? name with
  | some strategy => .ok strategy
  | none => .error (.unknownStrategy name)

def readPositive (env : Environment) (key : String) (default : Binary64) :
    Except ConfigurationFault Binary64 :=
  match env.given? key with
  | none => .ok default
  | some given =>
    match Numeral.binary64? given with
    | none => .error (.notNumber key given)
    | some value => if value.isAtMostZero then .error (.notPositive key given) else .ok value

/-- A number of times from an environment. -/
def readCount (env : Environment) (key : String) (default : Nat) : Except ConfigurationFault Nat :=
  match env.given? key with
  | none => .ok default
  | some given =>
    match Numeral.integer? given with
    | none => .error (.notInteger key given)
    | some value => if value < 0 then .error (.negative key given) else .ok value.toNat

/-- The origins in a list with commas, without blanks around them and without empty entries. -/
def originsIn (list : Text) : List Text :=
  ((splitOn ',' list).map Text.trim).filter fun origin => !origin.isEmpty

/-- The settings that an environment asks for. -/
def ofEnvironment (env : Environment) : Except ConfigurationFault Settings := do
  let strategy ← readStrategy env
  let timeout ← readPositive env "FLOWGRAPH_TIMEOUT" (Binary64.ofNat 60)
  let maxRetries ← readCount env "FLOWGRAPH_MAX_RETRIES" 2
  return {
    strategy := strategy
    apiKey := env.given? "OPENAI_API_KEY"
    model := (env.given? "FLOWGRAPH_MODEL").getD "gpt-4.1-mini".toList
    timeout := timeout
    maxRetries := maxRetries
    logLevel := Text.upper ((env.given? "FLOWGRAPH_LOG_LEVEL").getD "INFO".toList)
    corsOrigins := originsIn ((env.given? "FLOWGRAPH_CORS_ORIGINS").getD ['*']) }

end Settings

end GraphScribe
