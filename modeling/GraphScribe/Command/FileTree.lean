import GraphScribe.Command.Path
import GraphScribe.Failure

/-!
# File trees

The files below a working directory, each under the names that lead to it, and the directories that
have been made. A name in front of a file is a directory, whether it has been made or not.
-/

namespace GraphScribe

/-- Files by the names that lead to them, and the directories that have been made. -/
structure FileTree where
  files : List (List Text × List UInt8)
  directories : List (List Text)
  deriving DecidableEq

/-- What stands at a place of a file tree. -/
inductive FileEntry where
  | file (octets : List UInt8)
  | directory
  deriving DecidableEq

namespace FileTree

/-- The name that leads out of a directory. -/
def parentName : Text := ['.', '.']

/-- The octets of the file at a place. -/
def file? (tree : FileTree) (place : List Text) : Option (List UInt8) := tree.files.lookup place

/-- Is there a directory at a place? The working directory and what lies around it always are. -/
def isDirectory (tree : FileTree) (place : List Text) : Bool :=
  place.all (fun name => name == parentName || name == ['/'])
    || tree.directories.contains place
    || tree.files.any (fun f => place.isPrefixOf f.1 && place.length < f.1.length)

def above (place : List Text) : List Text :=
  if place.all (· == parentName) then place ++ [parentName]
  else if place = [['/']] then place
  else place.dropLast

def origin (path : Path) : List Text := if path.root = [] then [] else [['/']]

/-- The entry that some names lead to from a directory. -/
def entryFrom? (tree : FileTree) (place : List Text) : List Text → Option FileEntry
  | [] => some .directory
  | name :: rest =>
    if name = parentName then entryFrom? tree (above place) rest
    else
      let next := place ++ [name]
      if tree.isDirectory next then entryFrom? tree next rest
      else match tree.file? next, rest with
        | some octets, [] => some (.file octets)
        | _, _ => none

/-- The entry at a path, if there is one. -/
def entry? (tree : FileTree) (path : Path) : Option FileEntry :=
  tree.entryFrom? (origin path) path.names

/-- Does a walk along some names from a directory come to a name that is too long? -/
def meetsOverlong (tree : FileTree) (place : List Text) : List Text → Bool
  | [] => false
  | name :: rest =>
    if name = parentName then meetsOverlong tree (above place) rest
    else if Path.isOverlongName name then true
    else
      let next := place ++ [name]
      if tree.isDirectory next then meetsOverlong tree next rest else false

/-- Is the path too long to be looked up? -/
def isTooLong (tree : FileTree) (path : Path) : Bool :=
  !path.hasNull && (path.isOverlong || tree.meetsOverlong (origin path) path.names)

/-- The tree with a directory at a place. -/
def addDirectory (tree : FileTree) (place : List Text) : FileTree :=
  { tree with directories := tree.directories ++ [place] }

/-- The most directories that are made one inside the other in one go. -/
def makingLimit : Nat := 988

/-- Makes the directories that some names lead through, as far as they are missing; gives the place
of the last one. `reached` is the part of the `whole` path before these names, and `fresh` tells
whether a directory on it had to be made. A fault is reported for the whole path, but once
directories are being made one by one for the part reached, and those stay. If too many are missing
none is made. -/
def makeFrom (whole : Path) (tree : FileTree) (place : List Text) (reached : Path) (fresh : Bool) :
    List Text → FileTree × Except Failure (List Text)
  | [] => (tree, .ok place)
  | name :: rest =>
    let reached := reached.child name
    let blamed := (if fresh then reached else whole).toText
    if name = parentName then makeFrom whole tree (above place) reached fresh rest
    else if Path.isOverlongName name then (tree, .error (.path .tooLong blamed))
    else
      let next := place ++ [name]
      if tree.isDirectory next then makeFrom whole tree next reached fresh rest
      else match tree.file? next with
        | some _ =>
          (tree, .error (.path (if fresh || rest.isEmpty then .fileExists else .notDirectory) blamed))
        | none =>
          if !fresh && makingLimit ≤ rest.length then (tree, .error (.path .tooDeep whole.toText))
          else makeFrom whole (tree.addDirectory next) next reached true rest

/-- Makes a directory and those that lead to it, as far as they are missing; gives its place. -/
def makeDirectory (tree : FileTree) (path : Path) : FileTree × Except Failure (List Text) :=
  if path.hasNull then (tree, .error (.path .nullCharacter path.toText))
  else if path.isOverlong then (tree, .error (.path .tooLong path.toText))
  else makeFrom path tree (origin path) ⟨path.root, []⟩ false path.names

/-- The tree with the octets at a place. -/
def put (tree : FileTree) (place : List Text) (octets : List UInt8) : FileTree :=
  if (tree.file? place).isSome then
    { tree with files := tree.files.map fun f => if f.1 = place then (f.1, octets) else f }
  else { tree with files := tree.files ++ [(place, octets)] }

/-- Writes a file into a directory that is made if it is missing. The directory stays when the file
cannot be written. -/
def writeInto (tree : FileTree) (directory : Path) (name : Text) (octets : List UInt8) :
    FileTree × Except Failure Unit :=
  match tree.makeDirectory directory with
  | (made, .error failure) => (made, .error failure)
  | (made, .ok place) =>
    let target := place ++ [name]
    let file := directory.child name
    if Path.isOverlongName name || file.isOverlong then (made, .error (.path .tooLong file.toText))
    else if made.isDirectory target then (made, .error (.path .isDirectory file.toText))
    else (made.put target octets, .ok ())

/-- Is the place below the working directory? -/
def isInside (place : List Text) : Bool :=
  place.head?.all fun name => name != parentName && name != ['/']

/-- The files of a tree that are not the same in an earlier one. -/
def changedSince (tree earlier : FileTree) : List (List Text × List UInt8) :=
  tree.files.filter fun f => earlier.file? f.1 ≠ some f.2

end FileTree

end GraphScribe
