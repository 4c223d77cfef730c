import LiveViews.Proofs.Render.Agreement
import LiveViews.Site.Pages
import LiveViews.Site.Render

/-!
What reads see of a site. On a calm site, one that nobody else writes to, reading a source or a
fragment changes nothing but the log, and depends on no more than a fresh site has: the settings, the
stores, the files and the time.
-/

namespace LiveViews

open LiveViews.Store
open LiveViews.Liquid (Template Value Members)

namespace SiteM

variable {α β : Type}

@[simp] theorem bind_apply (first : SiteM α) (next : α → SiteM β) (site : Site) :
    (first >>= next) site = next (first site).1 (first site).2 := rfl

@[simp] theorem pure_apply (value : α) (site : Site) : (pure value : SiteM α) site = (value, site) :=
  rfl

@[simp] theorem get_apply (site : Site) : (get : SiteM Site) site = (site, site) := rfl

@[simp] theorem set_apply (other site : Site) : (set other : SiteM PUnit) site = ((), other) := rfl

@[simp] theorem modify_apply (change : Site → Site) (site : Site) :
    (modify change : SiteM PUnit) site = ((), change site) := rfl

@[simp] theorem modifyGet_apply (change : Site → α × Site) (site : Site) :
    (modifyGet change : SiteM α) site = change site := rfl

@[simp] theorem discard_apply (step : SiteM α) (site : Site) :
    (discard step) site = ((), (step site).2) := rfl

end SiteM

theorem renderInto_eq (fuel : Nat) (path : String) (model : Value) (ambient : Members)
    (widgets : WidgetSource Site) (sink : Sink) (site : Site) :
    renderInto fuel path model ambient widgets sink site =
      (match (renderPath fuel path model ambient widgets site).1 with
        | .error error => (.error error, sink)
        | .ok text => sink.write text,
      (renderPath fuel path model ambient widgets site).2) := by
  unfold renderInto
  rw [SiteM.bind_apply]
  rcases renderPath fuel path model ambient widgets site with ⟨error | text, after⟩ <;> rfl

def Source.template (source : Source) (path : String) (maxRange : Nat) :
    Except RenderError Template :=
  match String.fromUTF8? source.bytes with
  | none => .error (.invalidUtf8 path)
  | some text =>
    match parseView maxRange text with
    | .ok template => .ok template
    | .error (.refused error) => .error (.parse error)
    | .error .crashed => .error .broken

namespace Site

/-- The site as it would be opened now: with its stores and files, and nothing else. -/
def fresh (site : Site) : Site :=
  { settings := site.settings
    stores := site.stores
    fallback := site.fallback
    tree := site.tree
    now := site.now }

/-- Nobody is about to write between two steps of a read. -/
def Calm (site : Site) : Prop :=
  site.rival = none

def normal (site : Site) (path : String) : String :=
  View.normalPath site.settings.extension path

def page? (site : Site) (normal : String) : Option Page :=
  site.stores.pages.table.find? fun page => page.path = normal && page.status = .active

def source (site : Site) (path : String) : Except RenderError (Option Source) :=
  match site.page? (site.normal path) with
  | some page => .ok (some (pageSource page))
  | none => fileSource site path

def firstView (site : Site) : List String → Except RenderError (Option String)
  | [] => .ok none
  | path :: rest =>
    match (site.source path).map Option.isSome with
    | .error error => .error error
    | .ok true => .ok (some path)
    | .ok false => site.firstView rest

def firstText (site : Site) : List String → Except RenderError (Option String)
  | [] => .ok none
  | path :: rest =>
    match site.source path with
    | .error error => .error error
    | .ok none => site.firstText rest
    | .ok (some source) =>
      match String.fromUTF8? source.bytes with
      | some text => .ok (some text)
      | none => .error (.invalidUtf8 path)

def lookup (site : Site) (name : String) (routing : View.Routing) : Except RenderError ViewLookup :=
  (site.firstView (viewPaths site.settings name routing)).map fun found =>
    match found with
    | some path => .found path
    | none => .notFound (viewPaths site.settings name routing)

def template (site : Site) (path : String) : Except RenderError Template :=
  match site.source path with
  | .error error => .error error
  | .ok none => .error (.notFound path)
  | .ok (some source) => source.template path site.settings.maxRange

variable {site other : Site}

theorem settings_of_fresh (same : other.fresh = site.fresh) : other.settings = site.settings := by
  show other.fresh.settings = site.fresh.settings
  rw [same]

theorem normal_of_same (extension : other.settings.extension = site.settings.extension) :
    other.normal = site.normal := by
  funext path
  simp only [normal, extension]

theorem normal_of_fresh (same : other.fresh = site.fresh) : other.normal = site.normal :=
  normal_of_same (congrArg View.Settings.extension (settings_of_fresh same))

theorem source_fresh (site : Site) (key : String) : site.source key = site.fresh.source key :=
  rfl

theorem template_fresh (site : Site) (key : String) : site.template key = site.fresh.template key :=
  rfl

end Site

variable {site : Site}

theorem readPage_calm (calm : site.Calm) (wanted : Page → Bool) :
    readPage wanted site = (site.stores.pages.table.find? wanted, site) := by
  unfold Site.Calm at calm
  cases found : site.stores.pages.table.find? wanted with
  | none => simp [readPage, found]
  | some page => simp [readPage, yieldToRival, found, calm]

theorem readSource_calm (calm : site.Calm) (path : String) :
    readSource path (site.normal path) site = (site.source path, site) := by
  have read := readPage_calm calm fun page => page.path = site.normal path && page.status = .active
  unfold readSource pageAt Site.source Site.page?
  rw [SiteM.bind_apply, read]
  cases site.stores.pages.table.find? fun page =>
    page.path = site.normal path && page.status = .active <;> rfl

theorem fetch_calm (calm : site.Calm) (path : String) : fetch path site = (site.source path, site) :=
  readSource_calm calm path

theorem viewExists_calm (calm : site.Calm) (path : String) :
    viewExists path site = ((site.source path).map Option.isSome, site) := by
  have read : pageAt (site.normal path) site = (site.page? (site.normal path), site) :=
    readPage_calm calm _
  have normal : normalOf path site = (site.normal path, site) := rfl
  rw [viewExists, SiteM.bind_apply, normal, SiteM.bind_apply, read, Site.source]
  cases site.page? (site.normal path) <;> rfl

theorem findFirst_calm (calm : site.Calm) (paths : List String) :
    findFirst paths site = (site.firstView paths, site) := by
  induction paths with
  | nil => rfl
  | cons path rest ih =>
      rw [findFirst, SiteM.bind_apply, viewExists_calm calm, Site.firstView]
      rcases (site.source path).map Option.isSome with error | (_ | _)
      · rfl
      · exact ih
      · rfl

theorem findView_calm (calm : site.Calm) (name : String) (routing : View.Routing) :
    findView name routing site = (site.lookup name routing, site) := by
  rw [findView, SiteM.bind_apply, SiteM.get_apply, SiteM.bind_apply, findFirst_calm calm]
  rfl

theorem loadFirst_calm (calm : site.Calm) (paths : List String) :
    loadFirst paths site = (site.firstText paths, site) := by
  induction paths with
  | nil => rfl
  | cons path rest ih =>
      rw [loadFirst, SiteM.bind_apply, fetch_calm calm, Site.firstText]
      rcases site.source path with error | (_ | source)
      · rfl
      · exact ih
      · dsimp only
        cases String.fromUTF8? source.bytes <;> rfl

end LiveViews
