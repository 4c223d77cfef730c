import LiveViews.File.Path
import LiveViews.Text.Bytes

/-!
Trees of files and directories, read by absolute paths.

A path is followed segment by segment: each one but the last must lead to a directory, and so must
the last one if an empty segment or a dot stands behind it.
-/

namespace LiveViews.File

open LiveViews.Text

inductive Entry where
  | file (bytes : ByteArray) (modified : Int)
  | directory

/-- What tells that an entry has changed: the size of a file and the time of its last change. -/
def Entry.stamp : Entry → Option (Nat × Int)
  | .file bytes modified => some (bytes.size, modified)
  | .directory => none

abbrev Place := List (List Char)

/-- Entries by place; the top is a directory, and so is whatever holds an entry. -/
structure Tree where
  entries : List (Place × Entry) := []

inductive ReadError where
  | missing
  | refused
  deriving DecidableEq

def longestName : Nat := 255
def longestPath : Nat := 4095

namespace Tree

def entry? (tree : Tree) (place : Place) : Option Entry :=
  if place = [] then some .directory
  else (tree.entries.find? fun item => item.1 = place).map Prod.snd

def follow (tree : Tree) (place : Place) (entry : Entry) :
    List (List Char) → Except ReadError (Place × Entry)
  | [] => .ok (place, entry)
  | segment :: rest =>
    match entry with
    | .file _ _ => .error .missing
    | .directory =>
      if segment = [] ∨ segment = ['.'] then follow tree place entry rest
      else if segment = ['.', '.'] then follow tree place.dropLast .directory rest
      else if byteLength segment > longestName then .error .refused
      else
        match tree.entry? (place ++ [segment]) with
        | some next => follow tree (place ++ [segment]) next rest
        | none => .error .missing

def find (tree : Tree) (path : List Char) : Except ReadError (Place × Entry) :=
  if path.contains '\x00' || byteLength path > longestPath then .error .refused
  else if path = [] then .error .missing
  else tree.follow [] .directory (segments path)

def isDirectory (tree : Tree) (path : List Char) : Bool :=
  match tree.find path with
  | .ok (_, .directory) => true
  | _ => false

def present (tree : Tree) (path : List Char) : Bool :=
  (tree.find path).isOk

def read (tree : Tree) (path : List Char) : Except ReadError (ByteArray × Int) :=
  match tree.find path with
  | .ok (_, .file bytes modified) => .ok (bytes, modified)
  | .ok (_, .directory) => .error .missing
  | .error error => .error error

def holders : Place → List Place
  | [] => []
  | [_] => []
  | name :: rest => [name] :: (holders rest).map (name :: ·)

/-- Puts an entry at a place; what was there gives way, and the directories above it appear. -/
def put (tree : Tree) (place : Place) (entry : Entry) : Tree :=
  let missing := (holders place).filter fun holder => (tree.entry? holder).isNone
  let kept := tree.entries.filter fun item => item.1 ≠ place
  ⟨kept ++ missing.map (fun holder => (holder, .directory)) ++ [(place, entry)]⟩

def remove (tree : Tree) (place : Place) : Tree :=
  ⟨tree.entries.filter fun item => !place.isPrefixOf item.1⟩

def move (tree : Tree) (source target : Place) : Tree :=
  let moved := tree.entries.filter fun item => source.isPrefixOf item.1
  moved.foldl (fun tree item => tree.put (target ++ item.1.drop source.length) item.2)
    (tree.remove source)

def changes (earlier later : Tree) : List Place :=
  let places := (later.entries ++ earlier.entries).map Prod.fst
  let stamp? (tree : Tree) (place : Place) := (tree.entry? place).map Entry.stamp
  (places.filter fun place => stamp? earlier place ≠ stamp? later place).eraseDups

def namesBelow (tree : Tree) (place : Place) : List (List Char) :=
  tree.entries.filterMap fun item =>
    match item.2 with
    | .file _ _ => if place.isPrefixOf item.1 && item.1 ≠ place then item.1.getLast? else none
    | .directory => none

end Tree

def placeOf (path : List Char) : Place :=
  (segments path).filter fun segment => segment ≠ []

def pathOf (place : Place) : List Char :=
  '/' :: joinWith ['/'] place

end LiveViews.File
