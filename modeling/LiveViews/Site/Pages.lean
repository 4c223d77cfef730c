import LiveViews.Site.Source

/-!
Editing stored pages and widgets.

A name that is stored has its content replaced, any other name is added. A page keeps the path it was
added at; its path is signalled, and so is the requested one.
-/

namespace LiveViews

open LiveViews.Store LiveViews.Text

structure PageRequest where
  name : String := ""
  content : String := ""
  path : String := ""

structure WidgetRequest where
  name : String := ""
  content : String := ""

inductive WriteError where
  | required (field : String)
  | store (error : StoreError)

def WriteError.message : WriteError → String
  | .required field => field ++ " is required"
  | .store error => error.message

def firstBlank (fields : List (String × String)) : Option String :=
  (fields.find? fun field => blankText field.2).map Prod.fst

def PageRequest.blank? (request : PageRequest) : Option String :=
  firstBlank [("Name", request.name), ("Content", request.content), ("Path", request.path)]

def WidgetRequest.blank? (request : WidgetRequest) : Option String :=
  firstBlank [("Name", request.name), ("Content", request.content)]

def addPage (request : PageRequest) (path : String) : SiteM (Except WriteError Page) := do
  let site ← get
  let page : Page :=
    { name := request.name, path := path, body := request.content, createdAt := site.now }
  match site.stores.pages.insert page with
  | .error error => return .error (.store error)
  | .ok (stored, pages) =>
    putPages pages
    logLine "store" ("added page `" ++ stored.name ++ "` at " ++ stored.path)
    return .ok stored

def replacePage (page : Page) (content path : String) : SiteM (Except WriteError Page) := do
  let site ← get
  let edited := { page with body := content, updatedAt := some site.now }
  match site.stores.pages.update edited with
  | .error error => return .error (.store error)
  | .ok pages =>
    putPages pages
    if edited.path ≠ path then discard (signal edited.path)
    return .ok edited

def writePage (request : PageRequest) : SiteM (Except WriteError Page) := do
  match request.blank? with
  | some field => return .error (.required field)
  | none =>
    let path ← normalOf request.path
    let existing ← readPage fun page => page.name = request.name
    let written ← match existing with
      | none => addPage request path
      | some page => replacePage page request.content path
    match written with
    | .error error => return .error error
    | .ok page =>
      discard (signal path)
      return .ok page

def writeWidget (request : WidgetRequest) : SiteM (Except WriteError Store.Widget) := do
  match request.blank? with
  | some field => return .error (.required field)
  | none =>
    let site ← get
    match site.stores.widgets.table.find? fun widget => widget.name = request.name with
    | none =>
      let widget : Store.Widget :=
        { name := request.name, content := request.content, createdAt := site.now }
      match site.stores.widgets.insert widget with
      | .error error => return .error (.store error)
      | .ok (stored, widgets) =>
        putWidgets widgets
        return .ok stored
    | some widget =>
      let edited := { widget with content := request.content, updatedAt := some site.now }
      match site.stores.widgets.update edited with
      | .error error => return .error (.store error)
      | .ok widgets =>
        putWidgets widgets
        return .ok edited

def pageNamed (name : String) : SiteM (Option Page) :=
  readPage fun page => page.name = name && page.status = .active

end LiveViews
