import LiveViews.Command.Line
import LiveViews.Config.Basic
import LiveViews.File.Tree

/-!
The configuration for a command line: what the configuration file says, with what the command line
sets in its place, and with all paths made absolute.
-/

namespace LiveViews.Config

open LiveViews.Command

structure Surroundings where
  tree : File.Tree
  directory : String

namespace Surroundings

def absolute (around : Surroundings) (path : String) : List Char :=
  File.join around.directory.toList path.toList

/-- The path of what exists, without detours; any other path is only made absolute. -/
def settled (around : Surroundings) (path : String) : String :=
  match around.tree.find (around.absolute path) with
  | .ok (place, _) => String.ofList (File.pathOf place)
  | .error _ => String.ofList (around.absolute path)

def isFile (around : Surroundings) (path : String) : Bool :=
  (around.tree.read (around.absolute path)).isOk

def text? (around : Surroundings) (path : String) : Option String :=
  match around.tree.read (around.absolute path) with
  | .ok (bytes, _) => String.fromUTF8? bytes
  | .error _ => none

end Surroundings

def joined (base path : String) : String :=
  String.ofList (File.join base.toList path.toList)

def rootOf (line : Line) : String :=
  line.root.getD "./"

def withServe (request : Request) (serve : ServeSettings) : ServeSettings :=
  match request with
  | .serve interface port watch =>
    { serve with
      interface := interface.getD serve.interface
      port := port.getD serve.port
      watch := watch.getD serve.watch }
  | _ => serve

def withLine (around : Surroundings) (line : Line) (config : Config) : Config :=
  let root := around.settled (rootOf line)
  let settle (path : String) := around.settled (joined root path)
  { root := root
    configPath := settle line.config
    store := ⟨config.store.seed.map settle, config.store.database.map settle⟩
    views := { config.views with root := settle (line.views.getD config.views.root) }
    serve := withServe line.request config.serve }

def readFile (around : Surroundings) (path : String) : Except ConfigError Config :=
  if around.tree.present (around.absolute path) then
    match around.text? path with
    | some text => ofText text
    | none => .error (.io path)
  else .ok {}

def load (around : Surroundings) (line : Line) : Except ConfigError Config := do
  let read ← readFile around (joined (rootOf line) line.config)
  let config := withLine around line read
  validate around.isFile config
  return config

end LiveViews.Config
