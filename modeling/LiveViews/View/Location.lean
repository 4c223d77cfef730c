import LiveViews.Text.Search
import LiveViews.View.Path

/-!
Where a view of a given name is looked for.

A name that begins with a tilde or a slash is a path, one with the extension is a neighbour of the
view that asks, and any other name is put into the formats of the configured locations.
-/

namespace LiveViews.View

open LiveViews.Text

structure Routing where
  controller : Option String := none
  area : Option String := none
  executing : Option String := none

def namePlaceholder : List Char := ['{', 'n', 'a', 'm', 'e', '}']
def controllerPlaceholder : List Char := ['{', 'c', 'o', 'n', 't', 'r', 'o', 'l', 'l', 'e', 'r', '}']
def areaPlaceholder : List Char := ['{', 'a', 'r', 'e', 'a', '}']

/-- Puts a field in the place of its placeholder; none if the field is wanted and not known. -/
def fill (placeholder : List Char) (field : Option (List Char)) (path : List Char) :
    Option (List Char) :=
  if occursIn placeholder path then
    field.map fun value => replaceAll placeholder value path
  else some path

def expand (format name : List Char) (routing : Routing) : Option (List Char) := do
  let named := replaceAll namePlaceholder name format
  let placed ← fill controllerPlaceholder (routing.controller.map String.toList) named
  fill areaPlaceholder (routing.area.map String.toList) placed

def isRooted (name : List Char) : Bool :=
  name.head? = some '~' || name.head? = some '/'

def dropTildes (name : List Char) : List Char :=
  name.dropWhile fun c => c = '~'

def directoryOf (path : Option (List Char)) : List Char :=
  match path with
  | some path =>
    if path.contains '/' then (path.reverse.dropWhile fun c => c ≠ '/').reverse else ['/']
  | none => ['/']

def candidates (extension : List Char) (locations : List (List Char)) (name : List Char)
    (routing : Routing) : List (List Char) :=
  let name := trim name
  if isRooted name then [dropTildes name]
  else if hasExtension extension name then
    [directoryOf (routing.executing.map String.toList) ++ name]
  else locations.filterMap fun format => expand format name routing

def fragmentCandidates (extension : List Char) (locations : List (List Char)) (name : List Char) :
    List (List Char) :=
  let name := trim name
  if isRooted name then [dropTildes name]
  else
    let bare := stripExtension extension name
    locations.map fun format => replaceAll namePlaceholder bare format

end LiveViews.View
