import GraphScribe.Command.FileTree
import Mathlib.Data.List.Basic

/-!
# Writing into a file tree

Making directories touches no file (`Extends`), and what is made leads to the place that the path
spells out (`LeadsThrough`). So a file that is written into a directory stands at that place, and
every other file is what it was (`writeInto_cases`, `file?_put`).
-/

namespace GraphScribe.FileTree

/-! ## Places -/

/-- The place that some names lead to from a directory, whatever stands there. -/
def placeFrom (place : List Text) : List Text → List Text
  | [] => place
  | name :: rest => placeFrom (if name = parentName then above place else place ++ [name]) rest

/-- The place that a path leads to. -/
def placeOf (path : Path) : List Text := placeFrom (origin path) path.names

theorem placeFrom_append (place names rest : List Text) :
    placeFrom place (names ++ rest) = placeFrom (placeFrom place names) rest := by
  induction names generalizing place with
  | nil => rfl
  | cons name names ih => exact ih _

theorem placeOf_child (directory : Path) {name : Text} (h : name ≠ parentName) :
    placeOf (directory.child name) = placeOf directory ++ [name] := by
  show placeFrom (origin directory) (directory.names ++ [name]) = _
  rw [placeFrom_append]
  show (if name = parentName then _ else _) = _
  rw [if_neg h]
  rfl

/-! ## Directories -/

/-- A tree in which directories have been made: the files are the same, and every directory is still
there. -/
structure Extends (tree made : FileTree) : Prop where
  files : made.files = tree.files
  directories : ∀ place, tree.isDirectory place = true → made.isDirectory place = true

theorem Extends.refl (tree : FileTree) : tree.Extends tree := ⟨rfl, fun _ h => h⟩

theorem Extends.trans {tree made made' : FileTree} (h : tree.Extends made) (h' : made.Extends made') :
    tree.Extends made' :=
  ⟨h'.files.trans h.files, fun place hplace => h'.directories place (h.directories place hplace)⟩

theorem extends_addDirectory (tree : FileTree) (place : List Text) :
    tree.Extends (tree.addDirectory place) := by
  refine ⟨rfl, fun other hother => ?_⟩
  unfold isDirectory addDirectory at *
  simp only [Bool.or_eq_true, List.contains_iff_mem, List.mem_append] at hother ⊢
  tauto

theorem isDirectory_addDirectory (tree : FileTree) (place : List Text) :
    (tree.addDirectory place).isDirectory place = true := by
  unfold isDirectory addDirectory
  simp

/-- Every name leads from one directory of the tree to the next. -/
inductive LeadsThrough (tree : FileTree) : List Text → List Text → Prop
  | nil (place : List Text) : LeadsThrough tree place []
  | up {place rest : List Text} (later : LeadsThrough tree (above place) rest) :
      LeadsThrough tree place (parentName :: rest)
  | down {place rest : List Text} {name : Text} (h : name ≠ parentName)
      (here : tree.isDirectory (place ++ [name]) = true)
      (later : LeadsThrough tree (place ++ [name]) rest) : LeadsThrough tree place (name :: rest)

theorem LeadsThrough.mono {tree later : FileTree} {place names : List Text}
    (h : tree.LeadsThrough place names)
    (kept : ∀ other, tree.isDirectory other = true → later.isDirectory other = true) :
    later.LeadsThrough place names := by
  induction h with
  | nil place => exact .nil place
  | up _ ih => exact .up ih
  | down hname here _ ih => exact .down hname (kept _ here) ih

/-- Behind directories a walk goes on from the place that their names spell out. -/
theorem LeadsThrough.entryFrom?_append {tree : FileTree} {place names : List Text}
    (h : tree.LeadsThrough place names) (rest : List Text) :
    tree.entryFrom? place (names ++ rest) = tree.entryFrom? (placeFrom place names) rest := by
  induction h with
  | nil place => rfl
  | up _ ih =>
    rw [List.cons_append, entryFrom?, if_pos rfl, ih, placeFrom, if_pos rfl]
  | down hname here _ ih =>
    rw [List.cons_append, entryFrom?, if_neg hname, placeFrom, if_neg hname]
    dsimp only
    rw [if_pos here, ih]

section

variable (whole : Path)

theorem extends_makeFrom (tree : FileTree) (place : List Text) (reached : Path) (fresh : Bool)
    (names : List Text) : tree.Extends (makeFrom whole tree place reached fresh names).1 := by
  induction names generalizing tree place reached fresh with
  | nil => exact .refl tree
  | cons name rest ih =>
    unfold makeFrom
    dsimp only
    split
    · exact ih ..
    split
    · exact .refl tree
    split
    · exact ih ..
    split
    · exact .refl tree
    split
    · exact .refl tree
    · exact (extends_addDirectory tree (place ++ [name])).trans (ih ..)

/-- The directories that are made lead to the place that the names spell out. Induction on the names;
what has been made for the first of them is still there at the end. -/
theorem leadsThrough_makeFrom {tree made : FileTree} {place last : List Text} {reached : Path}
    {fresh : Bool} {names : List Text}
    (h : makeFrom whole tree place reached fresh names = (made, .ok last)) :
    last = placeFrom place names ∧ made.LeadsThrough place names := by
  induction names generalizing tree place reached fresh with
  | nil =>
    cases h
    exact ⟨rfl, .nil _⟩
  | cons name rest ih =>
    unfold makeFrom at h
    dsimp only at h
    unfold placeFrom
    by_cases hname : name = parentName
    · rw [if_pos hname] at h ⊢
      obtain ⟨hlast, later⟩ := ih h
      exact ⟨hlast, hname ▸ .up later⟩
    rw [if_neg hname] at h ⊢
    split at h
    · cases h
    split at h
    · next here =>
      obtain ⟨hlast, later⟩ := ih h
      have kept := extends_makeFrom whole tree (place ++ [name]) (reached.child name) fresh rest
      rw [h] at kept
      exact ⟨hlast, .down hname (kept.directories _ here) later⟩
    split at h
    · cases h
    split at h
    · cases h
    · obtain ⟨hlast, later⟩ := ih h
      have kept := extends_makeFrom whole (tree.addDirectory (place ++ [name])) (place ++ [name])
        (reached.child name) true rest
      rw [h] at kept
      exact ⟨hlast, .down hname (kept.directories _ (isDirectory_addDirectory tree _)) later⟩

end

/-! ## Files -/

/-- Changing the file at a place, wherever it is listed, changes what is found there and nothing
else. -/
theorem lookup_map_ite (files : List (List Text × List UInt8)) (place : List Text)
    (octets : List UInt8) (other : List Text) :
    (files.map fun f => if f.1 = place then (f.1, octets) else f).lookup other
      = if other = place then (files.lookup place).map fun _ => octets else files.lookup other := by
  induction files with
  | nil => simp
  | cons f files ih =>
    obtain ⟨name, old⟩ := f
    by_cases hother : other = place
    · subst hother
      by_cases hname : name = other
      · simp [hname]
      · have differs : (other == name) = false := beq_eq_false_iff_ne.2 (Ne.symm hname)
        simp [hname, List.lookup_cons, differs, ih]
    · by_cases hname : name = place
      · have differs : (other == name) = false := beq_eq_false_iff_ne.2 (hname ▸ hother)
        simp [hname ▸ differs, hname, List.lookup_cons, ih, hother]
      · simp [hname, List.lookup_cons, ih, hother]

/-- The file at a place is what was put there last, and every other file is what it was. -/
theorem file?_put (tree : FileTree) (place : List Text) (octets : List UInt8) (other : List Text) :
    (tree.put place octets).file? other = if other = place then some octets else tree.file? other := by
  unfold put file?
  split
  · next here =>
    obtain ⟨old, hold⟩ := Option.isSome_iff_exists.1 here
    show List.lookup other (tree.files.map _) = _
    rw [lookup_map_ite, hold]
    rfl
  · next absent =>
    show List.lookup other (tree.files ++ [(place, octets)]) = _
    rw [List.lookup_append]
    by_cases hother : other = place
    · rw [Option.not_isSome_iff_eq_none] at absent
      simp [hother, absent]
    · have differs : (other == place) = false := beq_eq_false_iff_ne.2 hother
      simp [hother, List.lookup_cons, differs]

/-- A file that is put at a place makes directories of the names in front of it. -/
theorem isDirectory_put (tree : FileTree) (place : List Text) (octets : List UInt8)
    (other : List Text) : (tree.put place octets).isDirectory other
      = (tree.isDirectory other || (other.isPrefixOf place && other.length < place.length)) := by
  unfold put
  split
  · next here =>
    have same : ∀ f : List Text × List UInt8,
        (if f.1 = place then (f.1, octets) else f).1 = f.1 := by
      intro f
      split <;> rfl
    obtain ⟨f, hf, hplace⟩ := List.lookup_isSome_iff.1 here
    -- the names in front of a file that is there already are directories
    have known : (other.isPrefixOf place && decide (other.length < place.length)) = true →
        tree.files.any (fun f => other.isPrefixOf f.1 && other.length < f.1.length) = true := by
      intro hfront
      exact List.any_eq_true.2 ⟨f, hf, beq_iff_eq.1 hplace ▸ hfront⟩
    unfold isDirectory
    simp only [List.any_map, Function.comp_def, same]
    cases hfront : other.isPrefixOf place && decide (other.length < place.length) with
    | false => rw [Bool.or_false]
    | true => rw [known hfront, Bool.or_true, Bool.or_true]
  · unfold isDirectory
    simp only [List.any_append, List.any_cons, List.any_nil, Bool.or_false, Bool.or_assoc]

/-! ## Writing a file -/

/-- What writing a file into a directory comes to: a failure, by which no file is touched, or the
octets at the place of the file, where there is no directory, behind directories that are there. -/
theorem writeInto_cases (tree : FileTree) (directory : Path) (name : Text) (octets : List UInt8) :
    ∃ made, tree.Extends made ∧
      ((∃ failure, tree.writeInto directory name octets = (made, .error failure)) ∨
        made.LeadsThrough (origin directory) directory.names ∧
          made.isDirectory (placeOf directory ++ [name]) = false ∧
          tree.writeInto directory name octets
            = (made.put (placeOf directory ++ [name]) octets, .ok ())) := by
  have kept : tree.Extends (tree.makeDirectory directory).1 := by
    unfold makeDirectory
    split
    · exact .refl tree
    split
    · exact .refl tree
    · exact extends_makeFrom ..
  have leads : ∀ made last, tree.makeDirectory directory = (made, .ok last) →
      last = placeOf directory ∧ made.LeadsThrough (origin directory) directory.names := by
    intro made last h
    unfold makeDirectory at h
    split at h
    · cases h
    split at h
    · cases h
    · exact leadsThrough_makeFrom directory h
  unfold writeInto
  rcases hmade : tree.makeDirectory directory with ⟨made, found⟩
  rw [hmade] at kept
  refine ⟨made, kept, ?_⟩
  cases found with
  | error failure => exact Or.inl ⟨failure, rfl⟩
  | ok last =>
    obtain ⟨rfl, names⟩ := leads made last hmade
    dsimp only
    split
    · exact Or.inl ⟨_, rfl⟩
    split
    · exact Or.inl ⟨_, rfl⟩
    · next hdirectory => exact Or.inr ⟨names, eq_false_of_ne_true hdirectory, rfl⟩

/-- The file that is put behind directories is found there. -/
theorem entry?_put {tree : FileTree} {directory : Path} {name : Text} (hname : name ≠ parentName)
    (leads : tree.LeadsThrough (origin directory) directory.names)
    (free : tree.isDirectory (placeOf directory ++ [name]) = false) (octets : List UInt8) :
    entry? (tree.put (placeOf directory ++ [name]) octets) (directory.child name)
      = some (.file octets) := by
  have leads' : (tree.put (placeOf directory ++ [name]) octets).LeadsThrough (origin directory)
      directory.names := by
    refine leads.mono fun other hother => ?_
    rw [isDirectory_put, hother, Bool.true_or]
  have free' : (tree.put (placeOf directory ++ [name]) octets).isDirectory
      (placeOf directory ++ [name]) = false := by
    rw [isDirectory_put, free, decide_eq_false (Nat.lt_irrefl _), Bool.and_false, Bool.or_false]
  show entryFrom? _ (origin directory) (directory.names ++ [name]) = _
  rw [leads'.entryFrom?_append]
  show entryFrom? _ (placeOf directory) [name] = _
  rw [entryFrom?, if_neg hname]
  dsimp only
  rw [free', file?_put, if_pos rfl]
  rfl

end GraphScribe.FileTree
