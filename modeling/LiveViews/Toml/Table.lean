import LiveViews.Json.Basic

/-!
Tables under construction. A table is defined once: by its header, by dotted keys, or in one line.

A table that a longer key or header made on its way is implicit; it may still get a header of its own
unless dotted keys made it.
-/

namespace LiveViews.Toml

mutual
inductive Node where
  | value (value : Json)
  | table (table : Table)
  /-- The tables of headers in double brackets, the last one first. -/
  | tables (last : Table) (earlier : List Table)

inductive Table where
  | mk (implicit dotted : Bool) (members : List (String × Node))
end

namespace Table

def empty : Table := .mk false false []

def onTheWay (dotted : Bool) : Table := .mk true dotted []

def isImplicit : Table → Bool
  | .mk implicit _ _ => implicit

def isDotted : Table → Bool
  | .mk _ dotted _ => dotted

def members : Table → List (String × Node)
  | .mk _ _ members => members

def withMembers (table : Table) (members : List (String × Node)) : Table :=
  .mk table.isImplicit table.isDotted members

def get? (table : Table) (key : String) : Option Node :=
  (table.members.find? fun member => member.1 = key).map Prod.snd

def setMember (key : String) (node : Node) : List (String × Node) → List (String × Node)
  | [] => [(key, node)]
  | member :: rest =>
    if member.1 = key then (key, node) :: rest else member :: setMember key node rest

def set (table : Table) (key : String) (node : Node) : Table :=
  table.withMembers (setMember key node table.members)

def erase (table : Table) (key : String) : Table :=
  table.withMembers (table.members.filter fun member => member.1 ≠ key)

/-- Changes the table that a path of keys leads to, made on the way where it is missing. Dotted keys
do not lead into a table that has a header. -/
def descend (dotted : Bool) (change : Table → Option Table) : List String → Table → Option Table
  | [], table => change table
  | key :: rest, table => do
    match table.get? key with
    | none =>
      let inner ← descend dotted change rest (onTheWay dotted)
      return table.set key (.table inner)
    | some (.value _) => none
    | some (.tables last earlier) =>
      let inner ← descend dotted change rest last
      return table.set key (.tables inner earlier)
    | some (.table found) =>
      if dotted && !found.isImplicit then none
      else
        let inner ← descend dotted change rest found
        return table.set key (.table inner)

/-- Adds a value under a key that is new; the table must be one that such keys may define. -/
def define (afterDots : Bool) (key : String) (value : Json) (table : Table) : Option Table :=
  if table.isDotted ≠ afterDots || (table.get? key).isSome then none
  else some (table.set key (.value value))

def assign (keys : List String) (value : Json) (table : Table) : Option Table := do
  let last ← keys.getLast?
  descend true (define (keys.length > 1) last value) keys.dropLast table

end Table

mutual
def Node.json : Node → Json
  | .value value => value
  | .table table => table.json
  | .tables last earlier => .array (tablesJson earlier [last.json])

def Table.json : Table → Json
  | .mk _ _ members => .object (membersJson members)

def membersJson : List (String × Node) → List (String × Json)
  | [] => []
  | (key, node) :: rest => (key, node.json) :: membersJson rest

def tablesJson : List Table → List Json → List Json
  | [], later => later
  | table :: earlier, later => tablesJson earlier (table.json :: later)
end

structure Header where
  keys : List String := []
  adds : Bool := false

structure Document where
  root : Table := .empty
  header : Header := {}
  current : Table := .empty

namespace Document

def addTo (key : String) (added : Table) (parent : Table) : Option Table :=
  match parent.get? key with
  | none => some (parent.set key (.tables added []))
  | some (.tables last earlier) => some (parent.set key (.tables added (last :: earlier)))
  | some _ => none

def putAt (key : String) (finished : Table) (parent : Table) : Option Table :=
  match parent.get? key with
  | none => some (parent.set key (.table finished))
  | some _ => none

def finished? (document : Document) : Option Table :=
  match document.header.keys.getLast? with
  | none => some document.current
  | some key =>
    let put := if document.header.adds then addTo key document.current
      else putAt key document.current
    Table.descend false put document.header.keys.dropLast document.root

def found? (key : String) : List String → Table → Option Node
  | [], table => table.get? key
  | first :: rest, table =>
    match table.get? first with
    | some (.table inner) => found? key rest inner
    | some (.tables last _) => found? key rest last
    | _ => none

/-- Begins a table. One that was implicit so far is taken over with what it holds. -/
def beginTable (keys : List String) (root : Table) : Option Document := do
  let last ← keys.getLast?
  match found? last keys.dropLast root with
  | none =>
    let root ← Table.descend false some keys.dropLast root
    return ⟨root, ⟨keys, false⟩, .empty⟩
  | some (.table table) =>
    if table.isImplicit && !table.isDotted then
      let root ← Table.descend false (fun parent => some (parent.erase last)) keys.dropLast root
      return ⟨root, ⟨keys, false⟩, .mk false false table.members⟩
    else none
  | some _ => none

def beginListed (keys : List String) (root : Table) : Option Document := do
  let last ← keys.getLast?
  match found? last keys.dropLast root with
  | none | some (.tables _ _) =>
    let root ← Table.descend false some keys.dropLast root
    return ⟨root, ⟨keys, true⟩, .empty⟩
  | some _ => none

def start (header : Header) (document : Document) : Option Document := do
  let root ← document.finished?
  if header.adds then beginListed header.keys root else beginTable header.keys root

def assign (keys : List String) (value : Json) (document : Document) : Option Document :=
  (document.current.assign keys value).map fun current => { document with current := current }

end Document

end LiveViews.Toml
