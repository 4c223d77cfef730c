import LiveViews.Store.Entity
import LiveViews.Store.Error
import LiveViews.Store.Identity

/-!
Tables. Rows are kept in the order of their ids, and each unique column holds a value once.
-/

namespace LiveViews.Store

variable {α : Type} [Row α]

structure Table (α : Type) where
  rows : List α := []
  sequence : Nat := 0

def clash? (row other : α) : Option (String × String) :=
  ((Row.uniqueKeys row).zip (Row.uniqueKeys other)).findSome? fun pair =>
    if pair.1.2 = pair.2.2 then some pair.1 else none

/-- Refuses a row that agrees with a row of another id in a unique column. -/
def checkUnique (rows : List α) (row : α) : Except StoreError Unit :=
  let others := rows.filter fun other => Row.id other ≠ Row.id row
  match others.findSome? (clash? row) with
  | some (column, value) => .error (.duplicate (Row.table α) column value)
  | none => .ok ()

/-- Puts a row in its place by id; a row of the same id gives way. -/
def putRow (row : α) : List α → List α
  | [] => [row]
  | other :: rest =>
    if Row.id row < Row.id other then row :: other :: rest
    else if Row.id row = Row.id other then row :: rest
    else other :: putRow row rest

namespace Table

def find? (table : Table α) (wanted : α → Bool) : Option α :=
  table.rows.find? wanted

/-- Adds a row under the next id, whatever id it carries, and gives the stored row. -/
def insert (table : Table α) (row : α) : Except StoreError (α × Table α) := do
  let next := table.sequence + 1
  if next ≥ sequenceBound then .error .exhausted
  else
    let stored := Row.withId row (IdWidth.ofSequence .i32 next)
    checkUnique table.rows stored
    return (stored, ⟨putRow stored table.rows, next⟩)

def update (table : Table α) (row : α) : Except StoreError (Table α) := do
  if table.rows.any fun other => Row.id other = Row.id row then
    checkUnique table.rows row
    return { table with rows := putRow row table.rows }
  else .error (.unknownId (Row.table α) (Row.id row))

def restore (table : Table α) (row : α) : Table α :=
  ⟨putRow row table.rows, max table.sequence (toSequence (Row.id row))⟩

end Table

end LiveViews.Store
