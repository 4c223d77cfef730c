import LiveViews.Text.Search
import LiveViews.View.Path

/-!
What a request asks for.
-/

namespace LiveViews.Web

open LiveViews.Text

inductive Route where
  | home
  | view (area : Option String) (controller action : String)
  | writePage
  | writeWidget
  | notFound
  deriving DecidableEq

def pathSegments (path : String) : List (List Char) :=
  (splitOn ['/'] path.toList).filter fun segment => !segment.isEmpty

def named (segment : List Char) (name : String) : Bool :=
  View.sameLetters segment name.toList

def postRoute : List (List Char) → Route
  | [controller, action] =>
    if !named controller "home" then .notFound
    else if named action "addorupdateliquid" then .writePage
    else if named action "addorupdatewidget" then .writeWidget
    else .notFound
  | _ => .notFound

def getRoute : List (List Char) → Route
  | [] => .home
  | [controller, action] => .view none (String.ofList controller) (String.ofList action)
  | [area, controller, action] =>
    .view (some (String.ofList area)) (String.ofList controller) (String.ofList action)
  | _ => .notFound

def route (method path : String) : Route :=
  match method with
  | "GET" => getRoute (pathSegments path)
  | "POST" => postRoute (pathSegments path)
  | _ => .notFound

end LiveViews.Web
