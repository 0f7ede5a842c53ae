import GraphScribe.Text.Case

/-!
# Log levels

The number of a log level by its name, in any case. An unknown name stands for the level of plain
information.
-/

namespace GraphScribe.LogLevel

def named : List (String × Nat) := [
  ("NOTSET", 0), ("DEBUG", 10), ("INFO", 20), ("WARN", 30), ("WARNING", 30), ("ERROR", 40),
  ("CRITICAL", 50), ("FATAL", 50)]

def info : Nat := 20

/-- The number of the level with the given name. -/
def number (name : Text) : Nat :=
  let upper := String.ofList (Text.upper name)
  (named.lookup upper).getD info

/-- The form of a line in the log. -/
def lineFormat : String := "%(asctime)s - %(name)s - %(levelname)s - %(message)s"

end GraphScribe.LogLevel
