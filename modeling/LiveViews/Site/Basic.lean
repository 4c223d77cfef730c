import LiveViews.File.Tree
import LiveViews.Log.Line
import LiveViews.Render.Memory
import LiveViews.Signal.Bus
import LiveViews.Store.Stores
import LiveViews.View.Settings

/-!
A site: stored pages, layouts and widgets, views in files, compiled templates, and who waits for
which change.
-/

namespace LiveViews

open LiveViews.Store LiveViews.Signal
open LiveViews.Liquid (Template)

inductive SiteEffect where
  | evict (path : String)
  | tell (label : String)
  deriving DecidableEq

inductive Fallback where
  | nowhere
  | files (root : String)

/-- A compiled template. Each compilation has a serial number of its own. -/
structure Compiled where
  serial : Nat
  template : Template
  memory : Memory

/-- The spellings under which a normal path was asked for, and the token of the last one. -/
structure Tracked where
  keys : List String
  token : Option Token

structure Site where
  settings : View.Settings := {}
  stores : Stores := {}
  fallback : Fallback := .nowhere
  tree : File.Tree := {}
  bus : Bus SiteEffect := {}
  compiled : List (String × Compiled) := []
  tracked : List (String × Tracked) := []
  nextSerial : Nat := 0
  now : Int := 0
  /-- The content that another writer gives to the next page that is read, right after the reading. -/
  rival : Option String := none
  log : List LogLine := []
  told : List String := []

abbrev SiteM := StateM Site

namespace Site

def report (line : LogLine) (site : Site) : Site :=
  { site with log := site.log ++ [line] }

def compiled? (site : Site) (key : String) : Option Compiled :=
  (site.compiled.find? fun entry => entry.1 = key).map Prod.snd

def tracked? (site : Site) (path : String) : Option Tracked :=
  (site.tracked.find? fun entry => entry.1 = path).map Prod.snd

def holds (site : Site) (key : String) : Bool :=
  (site.compiled? key).isSome

def invalidate (key : String) (site : Site) : Site :=
  { site with compiled := site.compiled.filter fun entry => entry.1 ≠ key }

def evict (path : String) (site : Site) : Site :=
  let keys := ((site.tracked? path).map Tracked.keys).getD []
  let held := keys.filter fun key => site.holds key
  let site := { site with tracked := site.tracked.filter fun entry => entry.1 ≠ path }
  let site := held.foldl (fun site key => site.invalidate key) site
  if held.isEmpty then site
  else
    site.report ⟨"store",
      path ++ " changed, evicted " ++ toString held.length ++ " cached view(s)"⟩

def perform (site : Site) (effect : SiteEffect) : Site :=
  match effect with
  | .evict path => site.evict path
  | .tell label => { site with told := site.told ++ [label] }

/-- Takes over the bus after an operation and performs the effects of the callbacks. -/
def settle (site : Site) (answer : Answer SiteEffect) : Site :=
  answer.effects.foldl perform { site with bus := answer.bus }

end Site

def signal (path : String) : SiteM Nat := fun site =>
  let answer := site.bus.signal path
  (answer.count, site.settle answer)

def register (token : Token) (callback : Callback SiteEffect) : SiteM Unit := fun site =>
  ((), site.settle (site.bus.register token callback))

def tokenOf (path : String) : SiteM Token := fun site =>
  let (token, bus) := site.bus.token path
  (token, { site with bus := bus })

def putPages (pages : Repository Page) : SiteM Unit :=
  modify fun site => { site with stores := { site.stores with pages := pages } }

def putWidgets (widgets : Repository Store.Widget) : SiteM Unit :=
  modify fun site => { site with stores := { site.stores with widgets := widgets } }

def logLine (part message : String) : SiteM Unit :=
  modify (Site.report ⟨part, message⟩)

end LiveViews
