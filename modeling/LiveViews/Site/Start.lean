import LiveViews.Config.Load
import LiveViews.Site.Seed

/-!
The site that a configuration describes.
-/

namespace LiveViews

open LiveViews.Store LiveViews.Config

def siteOf (config : Config) (tree : File.Tree) (now : Int) (stores : Stores) : Site :=
  { settings := config.views
    stores := stores
    fallback := .files config.views.root
    tree := tree
    now := now }

/-- Rows are kept in memory, whatever database is configured. -/
def ignoreDatabase (config : Config) : SiteM Unit :=
  match config.store.database with
  | some path => logLine "store" ("`persist` feature disabled, ignoring database " ++ path)
  | none => return ()

def plant (config : Config) : SiteM (Except StoreError Unit) := do
  match config.store.seed with
  | none => return .ok ()
  | some path =>
    match ← seedFrom path with
    | .error error => return .error error
    | .ok count =>
      logLine "store" ("seeded " ++ toString count ++ " row(s) from " ++ path)
      return .ok ()

def startInMemory (config : Config) : SiteM (Except StoreError Unit) := do
  ignoreDatabase config
  plant config

end LiveViews
