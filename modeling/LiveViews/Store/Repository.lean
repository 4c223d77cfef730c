import LiveViews.Json.Reader
import LiveViews.Json.Writer
import LiveViews.Store.Table

/-!
Tables that may be kept on disk. The disk holds the text of each row under the sequence number of its
id; a table that is opened again takes back what is there.
-/

namespace LiveViews.Store

variable {α : Type} [Row α]

abbrev Disk := List (Nat × String)

def Disk.put (key : Nat) (text : String) : Disk → Disk
  | [] => [(key, text)]
  | entry :: rest =>
    if key < entry.1 then (key, text) :: entry :: rest
    else if key = entry.1 then (key, text) :: rest
    else entry :: Disk.put key text rest

def rowText (row : α) : String :=
  (Row.json row).text

def rowOfText? (text : String) : Option α :=
  (Json.ofText? text).bind Row.ofJson?

structure Repository (α : Type) where
  table : Table α := {}
  /-- What is on disk; none for a table that is kept in memory only. -/
  disk : Option Disk := none

namespace Repository

def save (repository : Repository α) (row : α) (table : Table α) : Repository α :=
  ⟨table, repository.disk.map fun disk => disk.put (toSequence (Row.id row)) (rowText row)⟩

def insert (repository : Repository α) (row : α) : Except StoreError (α × Repository α) :=
  (repository.table.insert row).map fun (stored, table) => (stored, repository.save stored table)

def update (repository : Repository α) (row : α) : Except StoreError (Repository α) :=
  (repository.table.update row).map (repository.save row)

def restored (disk : Disk) : Except StoreError (Table α) :=
  disk.foldlM (fun table entry =>
    match rowOfText? entry.2 with
    | some row => .ok (table.restore row)
    | none => .error .backend) {}

def openDisk (disk : Disk) : Except StoreError (Repository α) :=
  (restored disk).map fun table => ⟨table, some disk⟩

/-- Closes the table and opens it again; what was in memory only is lost. -/
def reopen (repository : Repository α) : Except StoreError (Repository α) :=
  match repository.disk with
  | some disk => openDisk disk
  | none => .ok {}

end Repository

end LiveViews.Store
