import GraphScribe.Program.Source
import Mathlib.Data.List.Basic

/-!
# Blocks shift as a whole

A writer does not go left of the margin, so what a list of operations writes can depend on how deep the
writer stands. It does not for a *balanced* list, which takes back every step to the right and never
more than were made: the same lines come out at every level, only shifted
(`Writer.runAll_shifts_balanced`).

## The architecture

* **`Balanced`** — as many steps to the left as to the right, and at no place more of them before.
* **`Deep`** — there is room to the left for every step, from some level on. An operation hands it on
  to the rest (`Deep.run`).
* **`Shifted`** — two writers at work on the same lines, one of them further to the right. An operation
  for which there is room keeps them so (`Shifted.run`), hence a list does (`Shifted.runAll`).
-/

namespace GraphScribe.Writer

/-! ## Balanced operations -/

/-- Every step to the right is taken back, and none before it was made. -/
structure Balanced (ops : List Op) : Prop where
  prefixes : ∀ front, front <+: ops → front.count .pop ≤ front.count .push
  total : ops.count .pop = ops.count .push

/-- How far to the right an operation leads when there is room to the left. -/
def Op.shift : Op → Int
  | .push => 1
  | .pop => -1
  | .line _ | .blank _ | .extend _ => 0

/-- How far to the right some operations lead when there is room to the left. -/
def rise (ops : List Op) : Int := ops.count .push - ops.count .pop

theorem rise_cons (op : Op) (ops : List Op) : rise (op :: ops) = op.shift + rise ops := by
  unfold rise
  cases op with
  | push =>
    rw [List.count_cons_self, List.count_cons_of_ne (by simp)]
    show _ = (1 : Int) + _
    omega
  | pop =>
    rw [List.count_cons_self, List.count_cons_of_ne (by simp)]
    show _ = (-1 : Int) + _
    omega
  | line t => simp [Op.shift]
  | blank count => simp [Op.shift]
  | extend ts => simp [Op.shift]

/-- There is room to the left for every step when the operations start at `level`. -/
def Deep (level : Int) (ops : List Op) : Prop := ∀ front, front <+: ops → 0 ≤ level + rise front

theorem balanced_iff {ops : List Op} : Balanced ops ↔ Deep 0 ops ∧ rise ops = 0 := by
  unfold Deep rise
  constructor
  · rintro ⟨prefixes, total⟩
    refine ⟨fun front hfront => ?_, by omega⟩
    have := prefixes front hfront
    omega
  · rintro ⟨deep, level⟩
    refine ⟨fun front hfront => ?_, by omega⟩
    have := deep front hfront
    omega

theorem deep_nil {level : Int} : Deep level [] ↔ 0 ≤ level := by
  unfold Deep
  simp [rise]

theorem deep_cons {level : Int} {op : Op} {ops : List Op} :
    Deep level (op :: ops) ↔ 0 ≤ level ∧ Deep (level + op.shift) ops := by
  unfold Deep
  constructor
  · intro h
    refine ⟨by simpa [rise] using h [] List.nil_prefix, fun front hfront => ?_⟩
    have := h (op :: front) ((List.prefix_cons_inj op).2 hfront)
    rwa [rise_cons, ← Int.add_assoc] at this
  · rintro ⟨first, later⟩ front hfront
    rcases List.prefix_cons_iff.1 hfront with rfl | ⟨rest, rfl, hrest⟩
    · simpa [rise] using first
    · rw [rise_cons, ← Int.add_assoc]
      exact later rest hrest

theorem Deep.nonneg {level : Int} {ops : List Op} (h : Deep level ops) : 0 ≤ level := by
  cases ops with
  | nil => exact deep_nil.1 h
  | cons op ops => exact (deep_cons.1 h).1

/-! ## Blocks -/

theorem rise_append (front back : List Op) : rise (front ++ back) = rise front + rise back := by
  induction front with
  | nil => exact (Int.zero_add _).symm
  | cons op front ih => rw [List.cons_append, rise_cons, rise_cons, ih, Int.add_assoc]

theorem Deep.append {level : Int} {front back : List Op} (hfront : Deep level front)
    (hback : Deep (level + rise front) back) : Deep level (front ++ back) := by
  induction front generalizing level with
  | nil => rwa [show rise [] = 0 from rfl, Int.add_zero] at hback
  | cons op front ih =>
    rw [deep_cons] at hfront
    rw [rise_cons, ← Int.add_assoc] at hback
    exact deep_cons.2 ⟨hfront.1, ih hfront.2 hback⟩

/-- More room does no harm. -/
theorem Deep.mono {low high : Int} (h : low ≤ high) {ops : List Op} (deep : Deep low ops) :
    Deep high ops := by
  intro front hfront
  have := deep front hfront
  omega

theorem Balanced.append {front back : List Op} (hfront : Balanced front) (hback : Balanced back) :
    Balanced (front ++ back) := by
  rw [balanced_iff] at hfront hback ⊢
  obtain ⟨deep, level⟩ := hfront
  refine ⟨deep.append ?_, by rw [rise_append, level, hback.2]; rfl⟩
  rw [level]
  exact hback.1

/-- What stands one step to the right of balanced operations is balanced too. -/
theorem Balanced.block {ops : List Op} (h : Balanced ops) : Balanced (.push :: (ops ++ [.pop])) := by
  rw [balanced_iff] at h ⊢
  obtain ⟨deep, level⟩ := h
  have back : Deep (1 + rise ops) [.pop] := by
    rw [level]
    exact deep_cons.2 ⟨by decide, deep_nil.2 (by decide)⟩
  refine ⟨deep_cons.2 ⟨Int.le_refl 0, (deep.mono (by decide)).append back⟩, ?_⟩
  rw [rise_cons, rise_append, level]
  rfl

/-- An operation that is no step is balanced by itself. -/
theorem balanced_singleton {op : Op} (h : op.shift = 0) : Balanced [op] := by
  refine balanced_iff.2 ⟨deep_cons.2 ⟨Int.le_refl 0, deep_nil.2 ?_⟩, ?_⟩
  · rw [h]
    decide
  · rw [rise_cons, h]
    rfl

/-- The operations that write the function of a step; none for any other node. -/
def functionOps (n : PlannedNode) : List Op :=
  if n.isStep then
    .line (functionHeader n.function) :: .push :: ([.extend (functionBody n.name n.code)] ++ [.pop])
  else []

theorem function_eq_runAll (w : Writer) (n : PlannedNode) :
    w.function n = w.runAll (functionOps n) := by
  unfold function functionOps
  split
  · rfl
  · rfl

theorem balanced_functionOps (n : PlannedNode) : Balanced (functionOps n) := by
  unfold functionOps
  split
  · have header : Balanced [.line (functionHeader n.function)] := balanced_singleton rfl
    have body : Balanced [.extend (functionBody n.name n.code)] := balanced_singleton rfl
    exact header.append body.block
  · exact balanced_iff.2 ⟨deep_nil.2 (Int.le_refl 0), rfl⟩

/-! ## Levels -/

variable {ops : List Op} {op : Op}

/-- An operation for which there is room leads as far as it says. -/
theorem level_run_of_room {w : Writer} (room : 0 ≤ w.level + op.shift) :
    (w.run op).level = w.level + op.shift := by
  cases op with
  | push => rfl
  | pop =>
    show max 0 (w.level - 1) = w.level + -1
    have : 0 ≤ w.level + -1 := room
    omega
  | line t => exact (Int.add_zero _).symm
  | blank count => exact (Int.add_zero _).symm
  | extend ts => exact (Int.add_zero _).symm

theorem Deep.room {w : Writer} (h : Deep w.level (op :: ops)) : 0 ≤ w.level + op.shift :=
  (deep_cons.1 h).2.nonneg

theorem Deep.run {w : Writer} (h : Deep w.level (op :: ops)) : Deep (w.run op).level ops := by
  rw [level_run_of_room h.room]
  exact (deep_cons.1 h).2

/-- Operations for which there is room lead as far as they say. Induction on the operations. -/
theorem Deep.level_runAll {w : Writer} (h : Deep w.level ops) :
    (w.runAll ops).level = w.level + rise ops := by
  induction ops generalizing w with
  | nil => exact (Int.add_zero _).symm
  | cons op ops ih =>
    show ((w.run op).runAll ops).level = _
    rw [ih h.run, level_run_of_room h.room, rise_cons, Int.add_assoc]

/-- Whether there is room or not, no operation leads below zero. -/
theorem nonneg_level_run {w : Writer} (hw : 0 ≤ w.level) (op : Op) : 0 ≤ (w.run op).level := by
  cases op with
  | push => show 0 ≤ w.level + 1; omega
  | pop => exact Int.le_max_left 0 _
  | line t => exact hw
  | blank count => exact hw
  | extend ts => exact hw

theorem nonneg_level_runAll {w : Writer} (hw : 0 ≤ w.level) (ops : List Op) :
    0 ≤ (w.runAll ops).level := by
  induction ops generalizing w with
  | nil => exact hw
  | cons op ops ih => exact ih (nonneg_level_run hw op)

/-! ## Shifted lines -/

/-- `w` has written what `v` has, below some lines and `k` levels further to the right. -/
structure Shifted (k : Nat) (before : List Text) (w v : Writer) : Prop where
  level : w.level = v.level + k
  lines : w.lines = before ++ v.lines.map (indented k)

theorem indented_nil (level : Int) : indented level [] = [] := rfl

/-- A line that is indented twice stands at the sum of the two levels. -/
theorem indented_indented (k : Nat) {level : Int} (h : 0 ≤ level) (line : Text) :
    indented k (indented level line) = indented (level + k) line := by
  cases line with
  | nil => rfl
  | cons c line =>
    have sum : 4 * (level + k).toNat = 4 * (k : Int).toNat + 4 * level.toNat := by omega
    show indented k (indentAt level ++ c :: line) = indentAt (level + k) ++ c :: line
    rw [indented, if_neg (by simp), ← List.append_assoc]
    unfold indentAt
    rw [sum, List.replicate_append_replicate]

theorem map_indented_indented (k : Nat) {level : Int} (h : 0 ≤ level) (ts : List Text) :
    (ts.map (indented level)).map (indented k) = ts.map (indented (level + k)) := by
  rw [List.map_map]
  exact List.map_congr_left fun line _ => indented_indented k h line

section
variable {k : Nat} {before : List Text} {w v : Writer}

theorem Shifted.extend (h : Shifted k before w v) (hv : 0 ≤ v.level) (ts : List Text) :
    Shifted k before (w.extend ts) (v.extend ts) where
  level := h.level
  lines := by
    show w.lines ++ ts.map (indented w.level) = before ++ (v.lines ++ ts.map (indented v.level)).map _
    rw [List.map_append, map_indented_indented k hv, h.lines, h.level, List.append_assoc]

theorem Shifted.blank (h : Shifted k before w v) (count : Int) :
    Shifted k before (w.blank count) (v.blank count) where
  level := h.level
  lines := by
    show w.lines ++ List.replicate _ [] = before ++ (v.lines ++ List.replicate _ []).map _
    rw [List.map_append, List.map_replicate, indented_nil, h.lines, List.append_assoc]

theorem Shifted.pop (h : Shifted k before w v) (room : 0 < v.level) :
    Shifted k before w.pop v.pop where
  level := by
    have := h.level
    show max 0 (w.level - 1) = max 0 (v.level - 1) + k
    omega
  lines := h.lines

theorem Shifted.push (h : Shifted k before w v) : Shifted k before w.push v.push where
  level := by
    have := h.level
    show w.level + 1 = v.level + 1 + k
    omega
  lines := h.lines

/-- An operation for which there is room writes the same lines further to the right. -/
theorem Shifted.run (h : Shifted k before w v) (hv : 0 ≤ v.level) (room : 0 ≤ v.level + op.shift) :
    Shifted k before (w.run op) (v.run op) := by
  cases op with
  | push => exact h.push
  | pop =>
    have : 0 ≤ v.level + -1 := room
    exact h.pop (by omega)
  | line t => exact h.extend hv [t]
  | blank count => exact h.blank count
  | extend ts => exact h.extend hv ts

theorem Shifted.runAll (h : Shifted k before w v) (deep : Deep v.level ops) :
    Shifted k before (w.runAll ops) (v.runAll ops) := by
  induction ops generalizing w v with
  | nil => exact h
  | cons op ops ih => exact ih (h.run deep.nonneg deep.room) deep.run

end

/-- What has been written stays as it is while the writer goes on. -/
theorem lines_runAll_append (w : Writer) (front back : List Op) :
    (w.runAll front).lines <+: (w.runAll (front ++ back)).lines := by
  have whole : w.runAll (front ++ back) = (w.runAll front).runAll back := List.foldl_append
  rw [whole, lines_runAll (w.runAll front) back]
  exact List.prefix_append _ _

/-- A balanced list of operations leaves the level as it was and the lines above as they were. It
writes the same lines at every level, each with four more spaces for each level before it, and the
empty ones empty. Any list of operations stays at the margin or right of it, and changes no line that
is written already. The function of a node is written by a balanced list. -/
theorem runAll_shifts_balanced :
    (∀ ops : List Op, Balanced ops → ∀ (w : Writer) (k : Nat), w.level = k →
      (w.runAll ops).level = k ∧
      (w.runAll ops).lines = w.lines ++ ((start 0).runAll ops).lines.map fun line =>
        if line = [] then [] else List.replicate (4 * k) ' ' ++ line) ∧
    (∀ (ops : List Op) (w : Writer),
      (0 ≤ w.level → 0 ≤ (w.runAll ops).level) ∧
      ∀ front back, ops = front ++ back → (w.runAll front).lines <+: (w.runAll ops).lines) ∧
    ∀ n : PlannedNode, ∃ ops, Balanced ops ∧ ∀ w : Writer, w.function n = w.runAll ops := by
  refine ⟨fun ops balanced w k hw => ?_, fun ops w => ⟨?_, ?_⟩, fun n => ?_⟩
  · have begun : Shifted k w.lines w (start 0) := by
      constructor
      · exact hw.trans (Int.zero_add _).symm
      · rw [show (start 0).lines = [] from rfl, List.map_nil, List.append_nil]
    obtain ⟨deep, level⟩ := balanced_iff.1 balanced
    have ended := begun.runAll deep
    have returned : ((start 0).runAll ops).level = 0 := by
      rw [Deep.level_runAll deep, level]
      rfl
    refine ⟨by rw [ended.level, returned, Int.zero_add], ?_⟩
    rw [ended.lines]
    congr 2
    funext line
    simp only [indented, List.isEmpty_iff]
    rfl
  · exact fun hw => nonneg_level_runAll hw ops
  · rintro front back rfl
    exact lines_runAll_append w front back
  · exact ⟨functionOps n, balanced_functionOps n, fun w => function_eq_runAll w n⟩

/-- A step to the left is lost at the margin, so taking it back first does not shift. -/
example : ((start 1).runAll [.pop, .push, .line ['x']]).lines = ["    x".toList] ∧
    ((start 0).runAll [.pop, .push, .line ['x']]).lines = ["    x".toList] := by decide

end GraphScribe.Writer
