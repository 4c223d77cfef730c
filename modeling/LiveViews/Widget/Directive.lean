import LiveViews.Text.Blank
import LiveViews.Text.Letters

/-!
Arguments of a widget directive: the name of the widget, a colon, and the entity it is shown for.
White space may stand around each part, but not inside the entity.
-/

namespace LiveViews.Widget

open LiveViews.Text

structure Directive where
  widget : List Char
  entity : List Char
  deriving DecidableEq

/-- The first part of the arguments that is missing. -/
inductive DirectiveError where
  | name
  | colon
  | entity
  deriving DecidableEq

def DirectiveError.message : DirectiveError → String
  | .name => "An identifier was expected after the 'render' tag"
  | .colon => "':' was expected after the identifier of 'render'"
  | .entity => "An entity expression was expected after ':'"

def startsName (c : Char) : Bool :=
  isAlphabetic c || c = '_'

def continuesName (c : Char) : Bool :=
  isAlphanumeric c || c = '_' || c = '-'

def readEntity (text : List Char) : Except DirectiveError (List Char) :=
  let entity := trim text
  if entity.isEmpty || entity.any isBlank then .error .entity else .ok entity

def Directive.read (arguments : List Char) : Except DirectiveError Directive :=
  let text := trim arguments
  let name := text.takeWhile continuesName
  if !(name.head?.any startsName) then .error .name
  else
    match trimStart (text.dropWhile continuesName) with
    | ':' :: rest => (readEntity rest).map fun entity => ⟨name, entity⟩
    | _ => .error .colon

end LiveViews.Widget
