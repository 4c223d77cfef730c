import LiveViews.File.Path

/-!
Changes of files, collected until they have settled. Files that editors leave beside their work do
not count.
-/

namespace LiveViews.Watch

open LiveViews.Text LiveViews.File

inductive EventKind where
  | create
  | modify
  | remove
  | access
  | any
  | other
  deriving DecidableEq

def EventKind.isRelevant : EventKind → Bool
  | .create | .modify | .remove => true
  | .access | .any | .other => false

def temporaryExtensions : List String :=
  ["bck", "bak", "backup", "swp", "swo", "tmp"]

def isTemporary (path : List Char) : Bool :=
  let name := (fileName? path).getD []
  let ending := (nameExtension? name).getD []
  temporaryExtensions.contains (String.ofList ending) ||
    name.getLast? = some '~' || name.head? = some '.'

def settleTime : Nat := 300

def idleTime : Nat := 60000

structure Batch where
  pending : List (List Char) := []
  lastEvent : Option Int := none

namespace Batch

/-- Adds a file unless it is temporary or already there under some spelling. -/
def addPath (pending : List (List Char)) (path : List Char) : List (List Char) :=
  if isTemporary path || pending.any fun other => parts other = parts path then pending
  else pending ++ [path]

def add (batch : Batch) (now : Int) (paths : List (List Char)) : Batch :=
  ⟨paths.foldl addPath batch.pending, some now⟩

def isReady (batch : Batch) (now : Int) : Bool :=
  !batch.pending.isEmpty && batch.lastEvent.any fun last => now - last ≥ settleTime

def take (batch : Batch) : List (List Char) × Batch :=
  (batch.pending, {})

def timeout (batch : Batch) : Nat :=
  if batch.pending.isEmpty then idleTime else settleTime

end Batch

end LiveViews.Watch
