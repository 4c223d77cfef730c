import LiveViews.Render.Run
import LiveViews.Service.Registry
import LiveViews.Site.Fragment

/-!
Rendering the views of a site.

A compiled template is kept under the path that was asked for, unless its source has changed since it
was read. Every render runs in the scope of its own variables; what its widget directives remember
stays with the template that is kept.
-/

namespace LiveViews

open LiveViews.Store LiveViews.Signal
open LiveViews.Liquid (Template Value Members)

/-- Keeps a compiled template unless the token has fired since the source was read. -/
def publish (key : String) (compiled : Compiled) (token : Token) : SiteM Bool := do
  if (← get).bus.hasChanged token then return false
  else
    modify fun site =>
      { site with
        compiled := (key, compiled) :: site.compiled.filter fun entry => entry.1 ≠ key }
    return true

def compileText (text : String) : SiteM (Except RenderError Compiled) := do
  match parseView (← get).settings.maxRange text with
  | .error (.refused error) => return .error (.parse error)
  | .error .crashed => return .error .broken
  | .ok template =>
    modifyGet fun site =>
      (.ok ⟨site.nextSerial, template, .empty⟩, { site with nextSerial := site.nextSerial + 1 })

def compileSource (path : String) (source : Source) (token : Token) :
    SiteM (Except RenderError Compiled) := do
  match String.fromUTF8? source.bytes with
  | none => return .error (.invalidUtf8 path)
  | some text =>
    match ← compileText text with
    | .error error => return .error error
    | .ok compiled =>
      discard (publish path compiled token)
      return .ok compiled

def compiledView (path : String) : SiteM (Except RenderError Compiled) := do
  match (← get).compiled? path with
  | some compiled => return .ok compiled
  | none =>
    match ← resolve path with
    | .error error => return .error error
    | .ok none => return .error (.notFound path)
    | .ok (some (source, token)) => compileSource path source token

def activeContent (widgets : List Store.Widget) (name : String) : Option String :=
  (widgets.find? fun widget => widget.name = name && widget.status = .active).map
    Store.Widget.content

inductive ServiceKind where
  | widgets
  deriving DecidableEq

def ServiceKind.Service : ServiceKind → Type
  | .widgets => String → Site → Except RenderError (Option String) × Site

def WidgetSource.ofServices : Option (Registry ServiceKind.Service) → WidgetSource Site
  | none => .noLocator
  | some services =>
    match services.get? .widgets with
    | none => .noService
    | some content? => .service content?

theorem WidgetSource.ofServices_insert (services : Registry ServiceKind.Service)
    (content? : ServiceKind.Service .widgets) :
    ofServices (some (services.insert .widgets content?)) = .service content? := by
  rw [ofServices, Registry.get?_insert]

def siteServices : Registry ServiceKind.Service :=
  ({} : Registry ServiceKind.Service).insert .widgets fun name site =>
    (.ok (activeContent site.stores.widgets.table.rows name), site)

def siteWidgets : WidgetSource Site :=
  .ofServices (some siteServices)

theorem siteWidgets_eq : siteWidgets =
    .service fun name site => (.ok (activeContent site.stores.widgets.table.rows name), site) :=
  WidgetSource.ofServices_insert {} _

def siteFrame (settings : View.Settings) (widgets : WidgetSource Site) : Frame Site where
  depth := 0
  maxDepth := settings.maxWidgetDepth
  maxRange := settings.maxRange
  widgets := widgets
  report := Site.report

def viewGlobals (model : Value) (ambient : Members) : Members :=
  let members : Members := match model with
    | .object members => members
    | _ => []
  Members.set (Members.set members "Model" model) "ViewData" (.object ambient)

def siteContext (site : Site) (model : Value) (ambient : Members)
    (widgets : WidgetSource Site) : Context Site where
  layers := []
  globals := viewGlobals model ambient
  now := site.now
  fragments := some lookupFragment
  frame := some (siteFrame site.settings widgets)

/-- Puts what a template remembers back to where it is kept, if it still is. -/
def remember (path : String) (compiled : Compiled) (memory : Memory) (site : Site) : Site :=
  { site with
    compiled := site.compiled.map fun entry =>
      if entry.1 = path && entry.2.serial = compiled.serial then
        (path, { entry.2 with memory := memory })
      else entry }

/-- Renders the view at a path; templates may nest at most `fuel` deep. -/
def renderPath (fuel : Nat) (path : String) (model : Value) (ambient : Members)
    (widgets : WidgetSource Site) : SiteM (Except RenderError String) := do
  match ← compiledView path with
  | .error error => return .error error
  | .ok compiled =>
    let site ← get
    let context := siteContext site model ambient widgets
    let rendered := renderTemplate fuel context compiled.template compiled.memory none site
    set (remember path compiled rendered.memory rendered.world)
    return rendered.result

structure Sink where
  written : String := ""
  /-- Given what was written before, how many characters it takes of a text before it fails; none if it
  takes them all. -/
  takes? : String → String → Option Nat := fun _ _ => none

def Sink.write (text : String) (sink : Sink) : Except RenderError Unit × Sink :=
  match sink.takes? sink.written text with
  | none => (.ok (), { sink with written := sink.written ++ text })
  | some taken =>
    let part := String.ofList (text.toList.take taken)
    (.error .sink, { sink with written := sink.written ++ part })

/-- Renders the view at a path and then writes the whole text into a sink. -/
def renderInto (fuel : Nat) (path : String) (model : Value) (ambient : Members)
    (widgets : WidgetSource Site) (sink : Sink) : SiteM (Except RenderError Unit × Sink) := do
  match ← renderPath fuel path model ambient widgets with
  | .error error => return (.error error, sink)
  | .ok text => return sink.write text

inductive ViewLookup where
  | found (path : String)
  | notFound (searched : List String)

inductive ViewError where
  | notFound (name : String) (searched : List String)
  | render (error : RenderError)

def ViewError.message : ViewError → String
  | .notFound name searched =>
    "view `" ++ name ++ "` was not found, searched: " ++ ", ".intercalate searched
  | .render error => error.message

def viewPaths (settings : View.Settings) (name : String) (routing : View.Routing) : List String :=
  (View.candidates settings.extension.toList (settings.locations.map String.toList) name.toList
    routing).map String.ofList

def findFirst : List String → SiteM (Except RenderError (Option String))
  | [] => return .ok none
  | path :: rest => do
    match ← viewExists path with
    | .error error => return .error error
    | .ok true => return .ok (some path)
    | .ok false => findFirst rest

def findView (name : String) (routing : View.Routing) : SiteM (Except RenderError ViewLookup) := do
  let paths := viewPaths (← get).settings name routing
  return (← findFirst paths).map fun found =>
    match found with
    | some path => .found path
    | none => .notFound paths

def renderView (fuel : Nat) (name : String) (routing : View.Routing) (model : Value) :
    SiteM (Except ViewError String) := do
  match ← findView name routing with
  | .error error => return .error (.render error)
  | .ok (.notFound searched) => return .error (.notFound name searched)
  | .ok (.found path) =>
    match ← renderPath fuel path model [] siteWidgets with
    | .ok text => return .ok text
    | .error error => return .error (.render error)

end LiveViews
