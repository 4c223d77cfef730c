import LiveViews.Render.Error
import LiveViews.Site.Basic
import LiveViews.View.Path

/-!
The sources of views: an active page at the normal path, else a file.

Whoever compiles a source takes the live token of its path before reading it. A source that changes
while it is read fires that token, so that what was made of it is not kept.
-/

namespace LiveViews

open LiveViews.Store LiveViews.Signal

structure Source where
  bytes : ByteArray
  modified : Option Int

def normalOf (path : String) : SiteM String := do
  return View.normalPath (← get).settings.extension path

/-- Lets the other writer change the page that was just read. -/
def yieldToRival (page : Page) : SiteM Unit := do
  match (← get).rival with
  | none => return ()
  | some body =>
    modify fun site => { site with rival := none }
    match (← get).stores.pages.update { page with body := body } with
    | .ok pages => putPages pages
    | .error _ => return ()
    discard (signal page.path)

def readPage (wanted : Page → Bool) : SiteM (Option Page) := do
  match (← get).stores.pages.table.find? wanted with
  | none => return none
  | some page =>
    yieldToRival page
    return some page

def pageAt (normal : String) : SiteM (Option Page) :=
  readPage fun page => page.path = normal && page.status = .active

def pageSource (page : Page) : Source :=
  ⟨page.body.toUTF8, some (page.updatedAt.getD page.createdAt)⟩

def fileSource (site : Site) (path : String) : Except RenderError (Option Source) :=
  match site.fallback with
  | .nowhere => .ok none
  | .files root =>
    match File.locate? root.toList path.toList with
    | none => .ok none
    | some file =>
      match site.tree.read file with
      | .ok (bytes, modified) => .ok (some ⟨bytes, some modified⟩)
      | .error .missing => .ok none
      | .error .refused => .error (.io (String.ofList file))

def readSource (path normal : String) : SiteM (Except RenderError (Option Source)) := do
  match ← pageAt normal with
  | some page => return .ok (some (pageSource page))
  | none => return fileSource (← get) path

def fetch (path : String) : SiteM (Except RenderError (Option Source)) := do
  readSource path (← normalOf path)

def viewExists (path : String) : SiteM (Except RenderError Bool) := do
  match ← pageAt (← normalOf path) with
  | some _ => return .ok true
  | none => return (fileSource (← get) path).map Option.isSome

def addKey (key : String) (keys : List String) : List String :=
  if keys.contains key then keys else keys ++ [key]

/-- Remembers that `key` was asked for, and lets the first one to wait on this token evict them all. -/
def track (key normal : String) (token : Token) : SiteM Unit := do
  let entry := ((← get).tracked? normal).getD ⟨[], none⟩
  let keys := addKey key entry.keys
  modify fun site =>
    { site with
      tracked := (normal, ⟨keys, some token⟩) :: site.tracked.filter fun item => item.1 ≠ normal }
  if entry.token ≠ some token then
    register token (.mk (.evict normal) .done)

def resolve (path : String) : SiteM (Except RenderError (Option (Source × Token))) := do
  let normal ← normalOf path
  let token ← tokenOf normal
  match ← readSource path normal with
  | .error error => return .error error
  | .ok none => return .ok none
  | .ok (some source) =>
    track path normal token
    return .ok (some (source, token))

def trackedKeys (site : Site) (normal : String) : List String :=
  (((site.tracked? normal).map Tracked.keys).getD []).mergeSort fun left right => left ≤ right

end LiveViews
