import LiveViews.Text.Search

/-!
Paths of files. A path is a text; what it says is the list of its parts, in which doubled slashes,
a slash at the end and inner dots do not count.

Main functions: `locate?` gives the file below a root that a view path stands for, `virtualPath?`
the view path of a file below the root.
-/

namespace LiveViews.File

open LiveViews.Text

inductive Part where
  | root
  | here
  | up
  | name (text : List Char)
  deriving DecidableEq

def Part.text : Part → List Char
  | .root => ['/']
  | .here => ['.']
  | .up => ['.', '.']
  | .name text => text

def segments (path : List Char) : List (List Char) :=
  splitOn ['/'] path

def partOf? (segment : List Char) : Option Part :=
  if segment = [] ∨ segment = ['.'] then none
  else if segment = ['.', '.'] then some .up
  else some (.name segment)

/-- The parts of a path: a dot counts only where a relative path begins with it. -/
def parts (path : List Char) : List Part :=
  let later := (segments path).filterMap partOf?
  if path.head? = some '/' then .root :: later
  else if (segments path).head? = some ['.'] then .here :: later
  else later

def join (base rest : List Char) : List Char :=
  if rest.head? = some '/' then rest
  else if base = [] ∨ base.getLast? = some '/' then base ++ rest
  else base ++ '/' :: rest

def isName : Part → Bool
  | .name _ => true
  | _ => false

def isAnchor (c : Char) : Bool :=
  c = '~' || c = '/'

def relative (path : List Char) : List Char :=
  path.dropWhile isAnchor

/-- The file of a view path below `root`; none for a path that could leave it. -/
def locate? (root path : List Char) : Option (List Char) :=
  if (parts (relative path)).all isName then some (join root (relative path)) else none

def partsBelow? : List Part → List Part → Option (List Part)
  | [], below => some below
  | _ :: _, [] => none
  | part :: base, other :: below => if part = other then partsBelow? base below else none

def virtualPath? (root file : List Char) : Option (List Char) :=
  (partsBelow? (parts root) (parts file)).map fun below =>
    '/' :: joinWith ['/'] (below.map Part.text)

def fileName? (path : List Char) : Option (List Char) :=
  match (parts path).getLast? with
  | some (.name text) => some text
  | _ => none

/-- What follows the last dot of a name, unless the name begins with its only dot. -/
def nameExtension? (name : List Char) : Option (List Char) :=
  let reversed := name.reverse
  let after := reversed.takeWhile fun c => c ≠ '.'
  match reversed.drop after.length with
  | '.' :: _ :: _ => some after.reverse
  | _ => none

end LiveViews.File
