import GraphScribe.Text.Basic

/-!
# Writing indented lines

A writer holds the lines written so far and the level at which the next ones are indented, four
spaces a level. An empty line is never indented. Main statement: what a list of operations appends
does not depend on what was written before (`lines_runAll`).
-/

namespace GraphScribe

/-- Lines written so far, and the level of the next one. Below level zero nothing is indented. -/
structure Writer where
  lines : List Text
  level : Int
  deriving DecidableEq, Inhabited

namespace Writer

/-- A writer that starts at some level. -/
def start (level : Int) : Writer := ⟨[], level⟩

/-- Four spaces for each level above zero. -/
def indentAt (level : Int) : Text := List.replicate (4 * level.toNat) ' '

/-- A line as it stands at some level. -/
def indented (level : Int) (line : Text) : Text :=
  if line.isEmpty then [] else indentAt level ++ line

def line (w : Writer) (t : Text) : Writer := { w with lines := w.lines ++ [indented w.level t] }

def extend (w : Writer) (ts : List Text) : Writer :=
  { w with lines := w.lines ++ ts.map (indented w.level) }

/-- Writes some empty lines; none for a count below one. -/
def blank (w : Writer) (count : Int) : Writer :=
  { w with lines := w.lines ++ List.replicate count.toNat [] }

def push (w : Writer) : Writer := { w with level := w.level + 1 }

/-- Goes one level back, but not below zero. -/
def pop (w : Writer) : Writer := { w with level := max 0 (w.level - 1) }

/-! ## Operations as data -/

/-- What a writer can be told to do. -/
inductive Op where
  | line (t : Text)
  | blank (count : Int)
  | extend (ts : List Text)
  | push
  | pop
  deriving DecidableEq

def run (w : Writer) : Op → Writer
  | .line t => w.line t
  | .blank count => w.blank count
  | .extend ts => w.extend ts
  | .push => w.push
  | .pop => w.pop

def runAll (w : Writer) (ops : List Op) : Writer := ops.foldl run w

/-- The lines after each of some operations. -/
def states (w : Writer) : List Op → List (List Text)
  | [] => []
  | op :: ops => (w.run op).lines :: states (w.run op) ops

theorem lines_run (w : Writer) (op : Op) :
    (w.run op).lines = w.lines ++ ((start w.level).run op).lines := by
  cases op <;> simp [run, start, line, blank, extend, push, pop]

theorem level_run (w : Writer) (op : Op) : (w.run op).level = ((start w.level).run op).level := by
  cases op <;> simp [run, start, line, blank, extend, push, pop]

theorem lines_runAll (w : Writer) (ops : List Op) :
    (w.runAll ops).lines = w.lines ++ ((start w.level).runAll ops).lines := by
  induction ops generalizing w with
  | nil => simp [runAll, start]
  | cons op ops ih =>
    have rest := ih (w.run op)
    have fresh := ih ((start w.level).run op)
    simp only [runAll, List.foldl_cons] at rest fresh ⊢
    rw [rest, fresh, lines_run, level_run, List.append_assoc]

end Writer

end GraphScribe
