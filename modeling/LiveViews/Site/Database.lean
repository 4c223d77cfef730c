import LiveViews.Site.Start

/-!
Sites that keep their rows in a database file. The databases are given by the paths of their files; a
run of the program leaves them to the next one.
-/

namespace LiveViews

open LiveViews.Store LiveViews.Config

structure Storage where
  tree : File.Tree
  databases : List (String × Database) := []

namespace Storage

def database? (storage : Storage) (path : String) : Option Database :=
  (storage.databases.find? fun item => item.1 = path).map Prod.snd

def holder (path : String) : List Char :=
  File.pathOf (File.placeOf path.toList).dropLast

/-- Whether a database can be made at a path: there is an empty file, or nothing in a directory. -/
def canMake (tree : File.Tree) (path : String) : Bool :=
  match tree.find path.toList with
  | .ok (_, .file bytes _) => bytes.size = 0
  | .ok (_, .directory) => false
  | .error _ => path.toList.getLast? ≠ some '/' && tree.isDirectory (holder path)

def openFile (storage : Storage) (path : String) : Except StoreError Database :=
  match storage.database? path with
  | some database => .ok database
  | none => if canMake storage.tree path then .ok {} else .error .backend

def openStores (storage : Storage) : Option String → Except StoreError Stores
  | none => .ok {}
  | some path => (storage.openFile path).bind Stores.openDatabase

def keep (storage : Storage) (path : Option String) (site : Site) : Storage :=
  match path with
  | none => { storage with tree := site.tree }
  | some path =>
    { tree := site.tree
      databases := (path, site.stores.database) ::
        storage.databases.filter fun item => item.1 ≠ path }

def start (storage : Storage) (config : Config) (now : Int) : Except StoreError Unit × Option Site :=
  match storage.openStores config.store.database with
  | .error error => (.error error, none)
  | .ok stores =>
    let (result, site) := plant config (siteOf config storage.tree now stores)
    (result, some site)

end Storage

end LiveViews
