import LiveViews.Log.Status
import LiveViews.Program.Outcome
import LiveViews.Site.Change
import LiveViews.Site.Dispatch
import LiveViews.Web.Address

/-!
Serving a site: finding a port, answering requests and watching the view files.
-/

namespace LiveViews.Program

open LiveViews.Config LiveViews.Watch

structure Server where
  site : Site
  root : String
  watching : Bool
  status : Log.Status := {}
  batch : Batch := {}

def badAddress : Failure := ⟨"invalid IP address syntax", none⟩

def bind (isFree : Web.Address → Nat → Bool) (serve : ServeSettings) :
    Except Failure (Web.Address × Nat × Nat) :=
  match Web.Address.read? serve.interface with
  | none => .error badAddress
  | some address =>
    match Web.findPort (isFree address) serve.port with
    | some (offset, port) => .ok (address, offset, port)
    | none => .error ⟨Web.bindComplaint serve.port, none⟩

def bindLines (serve : ServeSettings) (address : Web.Address) (offset port : Nat) : List LogLine :=
  let detour : LogLine :=
    ⟨"serve", "port " ++ toString serve.port ++ " in use, using " ++ toString port ++ " instead"⟩
  let place : LogLine := ⟨"serve", "http://" ++ address.text ++ ":" ++ toString port⟩
  if offset > 0 then [detour, place] else [place]

def watchedLine (tree : File.Tree) (root extension : String) : LogLine :=
  ⟨"watch", root ++ "/ (" ++ toString (countViews tree root extension) ++ " views)"⟩

def unwatchedLine (root : String) : LogLine :=
  ⟨"watch", root ++ " does not exist, not watching"⟩

def beginWatch (root : String) : SiteM Bool := do
  let site ← get
  let watching := site.tree.isDirectory root.toList
  modify (Site.report
    (if watching then watchedLine site.tree root site.settings.extension else unwatchedLine root))
  return watching

def startServer (config : Config) (address : Web.Address) (offset port : Nat) (site : Site) :
    Server :=
  let site := (bindLines config.serve address offset port).foldl (fun site line =>
    site.report line) site
  let root := config.views.root
  if config.serve.watch then
    let (watching, site) := beginWatch root site
    { site := site, root := root, watching := watching }
  else { site := site, root := root, watching := false }

namespace Server

def handle (fuel : Nat) (method target : String) (body : ByteArray) (server : Server) :
    Except RequestError Web.Reply × Server :=
  let (result, site) := handleRequest fuel method target body server.site
  match result with
  | .error .unreadableBody =>
    let line : LogLine := ⟨"serve", "request error: " ++ RequestError.unreadableBody.message⟩
    (result, { server with site := site.report line })
  | _ => (result, { server with site := site })

def notice (kind : EventKind) (now : Int) (files : List (List Char)) (server : Server) : Server :=
  if server.watching && kind.isRelevant then
    { server with batch := server.batch.add now files }
  else server

/-- Changes files. The watcher takes down those below the directory that it watches. -/
def edit (now : Int) (places : List File.Place) (change : File.Tree → File.Tree)
    (server : Server) : Server :=
  let edited := { server with site := { server.site with tree := change server.site.tree } }
  let root := File.placeOf server.root.toList
  let below := places.filter fun place => root.isPrefixOf place
  if below.isEmpty then edited else edited.notice .modify now (below.map File.pathOf)

def reloaded (paths : List String) : Log.StatusMessage :=
  .success ("reloaded: " ++ ", ".intercalate paths)

def settle (now : Int) (time : String) (server : Server) : Option String × Server :=
  if server.batch.isReady now then
    let (files, batch) := server.batch.take
    let (paths, site) := handleChanges server.root files server.site
    let server := { server with site := site, batch := batch }
    if paths.isEmpty then (none, server)
    else
      let (text, status) := server.status.show time (reloaded paths)
      (some text, { server with status := status })
  else (none, server)

def takeLog (server : Server) : List LogLine × Server :=
  (server.site.log, { server with site := { server.site with log := [] } })

def farewell : LogLine := ⟨"serve", "shutting down..."⟩

end Server

end LiveViews.Program
