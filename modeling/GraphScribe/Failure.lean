import GraphScribe.Encoding.Utf8
import GraphScribe.Graph.Rejection
import GraphScribe.Json.Reader
import GraphScribe.Number.General

/-!
# Failures

Everything that can end a run before its result, as a cause and in words. Rejections, broken
configurations and failed generations are the three kinds that callers tell apart.
-/

namespace GraphScribe

inductive ConfigurationFault where
  | unknownStrategy (given : Text)
  | notNumber (key : String) (given : Text)
  | notPositive (key : String) (given : Text)
  | notInteger (key : String) (given : Text)
  | negative (key : String) (given : Text)
  | missingCredential
  | stated (words : Text)
  deriving DecidableEq

inductive GenerationFault where
  | emptyOutput
  | notProgram
  | timedOut (seconds : Binary64)
  | requestFailed (words : Text)
  | noCode (backend : Text)
  | stated (words : Text)
  deriving DecidableEq

/-- Why a path could not be used. -/
inductive PathFault where
  | isDirectory
  | fileExists
  | notDirectory
  | tooLong
  | tooDeep
  | nullCharacter
  deriving DecidableEq

/-- Why an environment cannot hold a variable. -/
inductive VariableFault where
  | nullCharacter
  | equalsSignInName
  deriving DecidableEq

/-- Why a run ended before its result. -/
inductive Failure where
  | rejected (rejection : Rejection)
  | misconfigured (fault : ConfigurationFault)
  | generation (fault : GenerationFault)
  | general (words : Text)
  | unexpected (words : Text)
  | unreadable (fault : Json.Fault)
  | undecodable (fault : Utf8.Fault)
  | unencodable (position : Nat) (run : RawText)
  | path (fault : PathFault) (name : Text)
  | pathMissing
  | unstorable (fault : VariableFault)
  | missingMember (key : String)
  | cancelled
  deriving DecidableEq

/-! ## Wording -/

/-- The names of the backends to choose from. -/
def strategyNames : List String := ["compiler", "llm"]

/-- A fault of the configuration in words. -/
def ConfigurationFault.message : ConfigurationFault → String
  | unknownStrategy given =>
    let names := ", ".intercalate strategyNames
    s!"FLOWGRAPH_STRATEGY must be one of {names}, got {String.ofList (quoted given)}"
  | notNumber key given => s!"{key} must be a number, got {String.ofList (quoted given)}"
  | notPositive key given => s!"{key} must be positive, got {String.ofList (quoted given)}"
  | notInteger key given => s!"{key} must be an integer, got {String.ofList (quoted given)}"
  | negative key given => s!"{key} must not be negative, got {String.ofList (quoted given)}"
  | missingCredential => "OPENAI_API_KEY is not set"
  | stated words => String.ofList words

/-- A fault of a generation in words. -/
def GenerationFault.message : GenerationFault → String
  | emptyOutput => "generator returned empty output"
  | notProgram => "generator output is not a LangGraph program"
  | timedOut seconds => s!"generation timed out after {String.ofList seconds.general}s"
  | requestFailed words => s!"generation request failed: {String.ofList words}"
  | noCode backend => s!"{String.ofList backend} backend returned no code"
  | stated words => String.ofList words

/-- A fault with a path in words. -/
def PathFault.message (path : Text) : PathFault → String
  | isDirectory => s!"[Errno 21] Is a directory: {String.ofList (quoted path)}"
  | fileExists => s!"[Errno 17] File exists: {String.ofList (quoted path)}"
  | notDirectory => s!"[Errno 20] Not a directory: {String.ofList (quoted path)}"
  | tooLong => s!"[Errno 36] File name too long: {String.ofList (quoted path)}"
  | tooDeep => "maximum recursion depth exceeded while calling a Python object"
  | nullCharacter => "embedded null byte"

/-- A fault with a variable in words. -/
def VariableFault.message : VariableFault → String
  | nullCharacter => "embedded null byte"
  | equalsSignInName => "illegal environment variable name"

/-- Lone halves at some position, in words. -/
def unencodableMessage (position : Nat) (run : RawText) : String :=
  match run with
  | [p] =>
    "'utf-8' codec can't encode character '\\u" ++ String.ofList (hexDigits 4 p.code)
      ++ s!"' in position {position}: surrogates not allowed"
  | _ =>
    s!"'utf-8' codec can't encode characters in position {position}-{position + run.length - 1}: "
      ++ "surrogates not allowed"

def Failure.message : Failure → String
  | rejected rejection => rejection.message
  | misconfigured fault => fault.message
  | generation fault => fault.message
  | general words => String.ofList words
  | unexpected words => String.ofList words
  | unreadable fault => fault.message
  | undecodable fault => fault.message
  | unencodable position run => unencodableMessage position run
  | path fault name => fault.message name
  | pathMissing => "expected str, bytes or os.PathLike object, not list"
  | unstorable fault => fault.message
  | missingMember key => s!"'{key}'"
  | cancelled => ""

end GraphScribe
