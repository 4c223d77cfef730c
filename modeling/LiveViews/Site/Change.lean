import LiveViews.Site.Source
import LiveViews.Watch.Batch

/-!
Changes of view files: each changed view is signalled once, under its normal path.
-/

namespace LiveViews

open LiveViews.Text

def changedView? (root extension : List Char) (file : List Char) : Option (List Char) :=
  ((File.virtualPath? root file).filter (View.hasExtension extension)).map
    (View.normalize extension)

def changedViews (root extension : String) (files : List (List Char)) : List String :=
  let paths := (files.filterMap (changedView? root.toList extension.toList)).map String.ofList
  paths.eraseDups.mergeSort fun left right => left ≤ right

def signalChange (path : String) : SiteM Unit := do
  let fired ← signal path
  if fired > 0 then
    logLine "watch" (path ++ " changed, " ++ toString fired ++ " cached view(s) dropped")

def handleChanges (root : String) (files : List (List Char)) : SiteM (List String) := do
  let paths := changedViews root (← get).settings.extension files
  paths.forM signalChange
  return paths

def countViews (tree : File.Tree) (root extension : String) : Nat :=
  match tree.find root.toList with
  | .ok (place, .directory) =>
    ((tree.namesBelow place).filter (View.hasExtension extension.toList)).length
  | .ok (place, .file _ _) =>
    if place.getLast?.any (View.hasExtension extension.toList) then 1 else 0
  | .error _ => 0

end LiveViews
