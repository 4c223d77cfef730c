import LiveViews.Json.Record
import LiveViews.Json.Selection
import LiveViews.Site.Pages
import LiveViews.Site.Render
import LiveViews.Text.Percent
import LiveViews.Web.Reply
import LiveViews.Web.Route

/-!
Answering requests. The target is decoded first, then cut at its question mark, and what is left
decides the route.
-/

namespace LiveViews

open LiveViews.Store LiveViews.Text LiveViews.Web
open LiveViews.Liquid (Value)

def bodyFields? (names : List String) (body : String) : Option (List (Option Json)) :=
  (Json.wantedOfText? names body).bind (Json.fields? .json names)

def PageRequest.ofText? (body : String) : Option PageRequest := do
  match ← bodyFields? ["Name", "Content", "Path"] body with
  | [name, content, path] =>
    return {
      name := ← Json.orDefault "" Json.string? name
      content := ← Json.orDefault "" Json.string? content
      path := ← Json.orDefault "" Json.string? path }
  | _ => none

def WidgetRequest.ofText? (body : String) : Option WidgetRequest := do
  match ← bodyFields? ["Name", "Content"] body with
  | [name, content] =>
    return {
      name := ← Json.orDefault "" Json.string? name
      content := ← Json.orDefault "" Json.string? content }
  | _ => none

def pageModel (page : Page) : Value :=
  .object [("Name", .text page.name), ("Path", .text page.path), ("Content", .text page.body)]

def viewReply : Except ViewError String → Reply
  | .ok text => .html text
  | .error error@(.notFound _ _) => .text 404 error.message
  | .error (.render error) => .text 500 error.message

def writeStatus : WriteError → Nat
  | .required _ => 400
  | .store (.duplicate _ _ _) => 409
  | .store _ => 500

def writeReply {α : Type} : Except WriteError α → Reply
  | .ok _ => .accepted
  | .error error => .text (writeStatus error) error.message

def invalidBody : Reply :=
  .text 400 "invalid request body"

abbrev Answered := Except RenderError Reply

/-- A view whose compilation breaks down is not answered. -/
def answerView : Except ViewError String → Answered
  | .error (.render .broken) => .error .broken
  | result => .ok (viewReply result)

def answerHome (fuel : Nat) : SiteM Answered := do
  let name := (← get).settings.homePage
  match ← pageNamed name with
  | none => return .ok (.text 404 ("page `" ++ name ++ "` not found"))
  | some page =>
    return answerView
      (← renderView fuel "Index" { controller := some "Home" } (pageModel page))

def dispatch (fuel : Nat) (route : Route) (body : String) : SiteM Answered := do
  match route with
  | .home => answerHome fuel
  | .view area controller action =>
    return answerView
      (← renderView fuel action { controller := some controller, area := area } .nil)
  | .writePage =>
    match PageRequest.ofText? body with
    | some request => return .ok (writeReply (← writePage request))
    | none => return .ok invalidBody
  | .writeWidget =>
    match WidgetRequest.ofText? body with
    | some request => return .ok (writeReply (← writeWidget request))
    | none => return .ok invalidBody
  | .notFound => return .ok .notFound

/-- The path of a request target; one that is no text when decoded counts as empty. -/
def targetPath (target : String) : String :=
  let decoded := (percentDecode? target).getD ""
  String.ofList (decoded.toList.takeWhile fun c => c ≠ '?')

def targetRoute (method target : String) : Route :=
  Web.route method (targetPath target)

def needsBody : Route → Bool
  | .writePage | .writeWidget => true
  | _ => false

inductive RequestError where
  | unreadableBody
  | render (error : RenderError)

def RequestError.message : RequestError → String
  | .unreadableBody => "Failed to read request body"
  | .render error => error.message

def bodyText? (route : Route) (body : ByteArray) : Option String :=
  if needsBody route then String.fromUTF8? body else some ""

def handleRequest (fuel : Nat) (method target : String) (body : ByteArray) :
    SiteM (Except RequestError Reply) := do
  let route := targetRoute method target
  match bodyText? route body with
  | none => return .error .unreadableBody
  | some body =>
    match ← dispatch fuel route body with
    | .error error => return .error (.render error)
    | .ok reply =>
      if reply.isFailure then
        logLine "error" (method ++ " " ++ targetPath target ++ ": " ++ reply.body)
      return .ok reply

end LiveViews
