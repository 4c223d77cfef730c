import LiveViews.Command.Usage
import LiveViews.Program.Run
import LiveViews.Web.Message
import Std.Async.Signal
import Std.Async.TCP
import Std.Sync.Mutex
import Std.Time.DateTime.Timestamp

/-!
The program: it reads the command line, the files and the requests, and prints and sends what comes
of them.
-/

namespace LiveViews.Main

open LiveViews.Command LiveViews.Config LiveViews.Program
open Std.Async

def currentTime : IO Int := do
  return (← Std.Time.Timestamp.now).toSecondsSinceUnixEpoch.val

/-- Adds a file, or a directory and what is below it, to a tree. What cannot be read is left out. -/
partial def gather (path : String) (tree : File.Tree) : IO File.Tree := do
  try
    let real ← IO.FS.realPath path
    let info ← real.metadata
    let place := File.placeOf (toString real).toList
    match info.type with
    | .dir =>
      let entries ← real.readDir
      entries.foldlM (fun tree entry => gather (toString entry.path) tree)
        (tree.put place .directory)
    | .file => return tree.put place (.file (← IO.FS.readBinFile real) info.modified.sec)
    | _ => return tree
  catch _ => return tree

def gatherDirectory (path : String) (tree : File.Tree) : IO File.Tree := do
  try
    let real ← IO.FS.realPath path
    if ← real.isDir then return tree.put (File.placeOf (toString real).toList) .directory
    else return tree
  catch _ => return tree

def surroundings (line : Line) : IO Surroundings := do
  let directory := toString (← IO.currentDir)
  let tree ← gatherDirectory directory {}
  let tree ← gatherDirectory (rootOf line) tree
  let file := joined (rootOf line) line.config
  let around : Surroundings := ⟨← gather file tree, directory⟩
  match readFile around file with
  | .error _ => return around
  | .ok read =>
    let config := withLine around line read
    let tree ← gather config.views.root around.tree
    let tree ← config.store.seed.elim (pure tree) fun seed => gather seed tree
    return { around with tree := tree }

def printLines (log : List LogLine) : IO Unit := do
  let coloured := (← (← IO.getStdout).isTty) && (← IO.getEnv "NO_COLOR").isNone
  for line in log do
    IO.print (Log.written coloured line)
  (← IO.getStdout).flush

def report (outcome : Outcome) : IO UInt32 := do
  printLines outcome.log
  IO.print outcome.text
  (← IO.getStdout).flush
  for diagnostic in outcome.diagnostics do
    IO.eprintln diagnostic
  match outcome.ending with
  | .failed failure =>
    IO.eprintln ("Error: " ++ failure.complaint)
    if let some cause := failure.cause then
      IO.eprintln ("\nCaused by:\n    " ++ cause)
  | .broken => IO.eprintln "the template compiler broke down"
  | .done => pure ()
  return outcome.ending.exitCode.toUInt32

def listen? (address : Web.Address) (port : Nat) : IO (Option TCP.Socket.Server) := do
  try
    let socket ← TCP.Socket.Server.mk
    let ip : Std.Net.IPv4Addr :=
      .ofParts address.a.toUInt8 address.b.toUInt8 address.c.toUInt8 address.d.toUInt8
    socket.bind (.v4 ⟨ip, port.toUInt16⟩)
    socket.listen 128
    return some socket
  catch _ => return none

def listenFirst (address : Web.Address) :
    List (Nat × Nat) → IO (Option (Nat × TCP.Socket.Server))
  | [] => return none
  | (_, port) :: rest => do
    match ← listen? address port with
    | some socket => return some (port, socket)
    | none => listenFirst address rest

abbrev Shared := Std.Mutex Server

def flushLog (server : Server) : IO Server := do
  let (log, server) := server.takeLog
  printLines log
  return server

def refresh (server : Server) : IO Server := do
  let now ← currentTime
  let tree ← gather server.root {}
  let kept := server.site.tree.remove (File.placeOf server.root.toList)
  let next : File.Tree := ⟨kept.entries ++ tree.entries⟩
  let places := server.site.tree.changes next
  let site := { server.site with now := now }
  return { server with site := site }.edit (← IO.monoMsNow) places fun _ => next

partial def receive? (client : TCP.Socket.Client) (read : List UInt8) :
    IO (Option (Web.Head × ByteArray)) := do
  let more : IO (Option (Web.Head × ByteArray)) := do
    match ← (client.recv? 65536).block with
    | some bytes => receive? client (read ++ bytes.toList)
    | none => return none
  match Web.splitHead? read with
  | none => more
  | some (head, body) =>
    match (String.fromUTF8? ⟨head.toArray⟩).bind Web.Head.read? with
    | none => return none
    | some head =>
      if body.length < head.length then more
      else return some (head, ⟨(body.take head.length).toArray⟩)

def answer (shared : Shared) (head : Web.Head) (body : ByteArray) : IO ByteArray :=
  shared.atomically do
    let server ← refresh (← get)
    let (result, server) := server.handle nesting head.method head.target body
    set (← flushLog server)
    match result with
    | .ok reply => return reply.bytes head.method
    | .error _ => return Web.unanswered

def converse (shared : Shared) (client : TCP.Socket.Client) : IO Unit := do
  try
    match ← receive? client [] with
    | some (head, body) =>
      (client.send (← answer shared head body)).block
      client.shutdown.block
    | none => return ()
  catch _ => return ()

partial def acceptLoop (shared : Shared) (socket : TCP.Socket.Server) : IO Unit := do
  let client ← socket.accept.block
  discard (IO.asTask (converse shared client))
  acceptLoop shared socket

partial def watchLoop (shared : Shared) : IO Unit := do
  IO.sleep 100
  shared.atomically do
    let server ← refresh (← get)
    let time := Log.timeOfDay (← currentTime).toNat
    let (text, server) := server.settle (← IO.monoMsNow) time
    let server ← flushLog server
    if let some text := text then
      IO.print text
      (← IO.getStdout).flush
    set server
  watchLoop shared

def serveSite (config : Config) (site : Site) : IO UInt32 := do
  let found ← match Web.Address.read? config.serve.interface with
    | some address => listenFirst address (Web.triedPorts config.serve.port)
    | none => pure none
  let isFree (_ : Web.Address) (port : Nat) : Bool := found.any fun item => item.1 = port
  match serve isFree config site, found with
  | .error outcome, _ => report outcome
  | .ok _, none => return 1
  | .ok server, some (_, socket) =>
    let interrupted ← (← Signal.Waiter.mk .sigint false).wait
    let shared ← Std.Mutex.new (← flushLog server)
    discard (IO.asTask (acceptLoop shared socket) .dedicated)
    if server.watching then discard (IO.asTask (watchLoop shared) .dedicated)
    discard interrupted.block
    printLines [Server.farewell]
    return 0

def usage (error : UsageError) : IO UInt32 := do
  if error.isAnswer then IO.print error.message else IO.eprint error.message
  return error.exitCode.toUInt32

def follow (arguments : List String) : IO UInt32 := do
  match Line.read arguments with
  | .error error => usage error
  | .ok line =>
    match run nesting (← surroundings line) (← currentTime) arguments with
    | .refused error => usage error
    | .ended outcome => report outcome
    | .ready config site => serveSite config site

end LiveViews.Main

def main (arguments : List String) : IO UInt32 :=
  LiveViews.Main.follow arguments
