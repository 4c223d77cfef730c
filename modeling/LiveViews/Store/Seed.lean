import LiveViews.Store.Stores
import LiveViews.View.Path

/-!
Seeding: rows from a file are added unless a unique value of theirs is taken.
-/

namespace LiveViews.Store

structure Seed where
  pages : List Page := []
  layouts : List Layout := []
  widgets : List Widget := []

namespace Seed

def fieldNames : List String :=
  ["pages", "layouts", "widgets"]

def rowsOfJson? {α : Type} [Row α] (value : Json) : Option (List α) := do
  (← value.array?).mapM (Row.read? .toml)

def ofJson? (value : Json) : Option Seed := do
  match ← Json.fields? .toml fieldNames value with
  | [pages, layouts, widgets] =>
    return {
      pages := ← Json.orDefault [] rowsOfJson? pages
      layouts := ← Json.orDefault [] rowsOfJson? layouts
      widgets := ← Json.orDefault [] rowsOfJson? widgets }
  | _ => none

def stamp (now createdAt : Int) : Int :=
  if createdAt = 0 then now else createdAt

/-- Adds the rows in order and counts them; a row with a taken value is left out. -/
def addRows {α : Type} [Row α] (rows : List α) (repository : Repository α) :
    Except StoreError (Nat × Repository α) :=
  rows.foldlM (fun (count, repository) row =>
    match repository.insert row with
    | .ok (_, repository) => .ok (count + 1, repository)
    | .error (.duplicate _ _ _) => .ok (count, repository)
    | .error error => .error error) (0, repository)

def layoutRows (seed : Seed) (now : Int) : List Layout :=
  seed.layouts.map fun layout => { layout with createdAt := stamp now layout.createdAt }

def pageRows (seed : Seed) (extension : String) (now : Int) : List Page :=
  seed.pages.map fun page =>
    { page with
      path := View.normalPath extension page.path, createdAt := stamp now page.createdAt }

def widgetRows (seed : Seed) (now : Int) : List Widget :=
  seed.widgets.map fun widget => { widget with createdAt := stamp now widget.createdAt }

def addTo (seed : Seed) (extension : String) (now : Int) (stores : Stores) :
    Except StoreError (Nat × Stores) := do
  let (layoutCount, layouts) ← addRows (seed.layoutRows now) stores.layouts
  let (pageCount, pages) ← addRows (seed.pageRows extension now) stores.pages
  let (widgetCount, widgets) ← addRows (seed.widgetRows now) stores.widgets
  return (layoutCount + pageCount + widgetCount, ⟨pages, layouts, widgets⟩)

end Seed

end LiveViews.Store
