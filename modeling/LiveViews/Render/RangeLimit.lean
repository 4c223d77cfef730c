import LiveViews.Liquid.Compile
import LiveViews.Render.Diagnostic

/-!
The limit on literal ranges. A range is materialized before it is iterated, so a text that writes
out a range of too many items is refused before it is compiled.
-/

namespace LiveViews

open LiveViews.Text LiveViews.Liquid

def readBounds? (inside : List Char) : Option (Int × Int) := do
  let (first, last) ← splitOnce ['.', '.'] inside
  let first ← readI64? (trim first)
  let last ← readI64? (trim last)
  return (first, last)

def exceeds (limit : Nat) (bounds : Int × Int) : Bool :=
  bounds.2 - bounds.1 + 1 > limit

def openedBounds? (text : List Char) : Option (Int × Int) := do
  let (inside, _) ← splitOnce [')'] text
  readBounds? inside

def oversizedRange? (limit : Nat) : List Char → Option (Int × Int)
  | [] => none
  | c :: rest =>
    if c = '(' then
      match (openedBounds? rest).filter (exceeds limit) with
      | some bounds => some bounds
      | none => oversizedRange? limit rest
    else oversizedRange? limit rest

inductive ViewParseStop where
  | refused (error : ParseError)
  | crashed

def oversizedMessage (limit : Nat) (bounds : Int × Int) : String :=
  "range (" ++ toString bounds.1 ++ ".." ++ toString bounds.2 ++ ") exceeds the limit of "
    ++ toString limit ++ " items"

def parseView (maxRange : Nat) (text : String) : Except ViewParseStop Template :=
  match oversizedRange? maxRange text.toList with
  | some bounds => .error (.refused ⟨[.message (oversizedMessage maxRange bounds)]⟩)
  | none =>
    match Template.parse text with
    | .ok template => .ok template
    | .error (.refused error) => .error (.refused ⟨[.engine error]⟩)
    | .error .crashed => .error .crashed

end LiveViews
