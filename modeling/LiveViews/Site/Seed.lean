import LiveViews.Site.Basic
import LiveViews.Store.Seed
import LiveViews.Toml.Reader

/-!
Seeding the tables of a site from a file.
-/

namespace LiveViews

open LiveViews.Store

def seedSite (seed : Seed) : SiteM (Except StoreError Nat) := do
  let site ← get
  match seed.addTo site.settings.extension site.now site.stores with
  | .error error => return .error error
  | .ok (count, stores) =>
    set { site with stores := stores }
    return .ok count

def fileText? (tree : File.Tree) (path : String) : Option String :=
  match tree.read path.toList with
  | .ok (bytes, _) => String.fromUTF8? bytes
  | .error _ => none

def seedFrom (path : String) : SiteM (Except StoreError Nat) := do
  match fileText? (← get).tree path with
  | none => return .error (.io path)
  | some text =>
    match (Toml.ofText? text).bind Seed.ofJson? with
    | none => return .error (.invalidSeed path)
    | some seed => seedSite seed

end LiveViews
