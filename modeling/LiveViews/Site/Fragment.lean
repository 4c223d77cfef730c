import LiveViews.Site.Source
import LiveViews.View.Location

/-!
Fragments: views that other views include. They are read anew for each use and never kept.
-/

namespace LiveViews

open LiveViews.Store

def fragmentPaths (settings : View.Settings) (name : String) : List String :=
  (View.fragmentCandidates settings.extension.toList (settings.fragments.map String.toList)
    name.toList).map String.ofList

def loadFirst : List String → SiteM (Except RenderError (Option String))
  | [] => return .ok none
  | path :: rest => do
    match ← fetch path with
    | .error error => return .error error
    | .ok none => loadFirst rest
    | .ok (some source) =>
      match String.fromUTF8? source.bytes with
      | some text => return .ok (some text)
      | none => return .error (.invalidUtf8 path)

def loadFragment (name : String) : SiteM (Except RenderError (Option String)) := do
  loadFirst (fragmentPaths (← get).settings name)

/-- The text of a fragment. One that cannot be read is reported and counts as missing. -/
def lookupFragment (name : String) : SiteM (Option String) := do
  match ← loadFragment name with
  | .ok text => return text
  | .error error =>
    logLine "render" ("partial `" ++ name ++ "` could not be read: " ++ error.message)
    return none

end LiveViews
