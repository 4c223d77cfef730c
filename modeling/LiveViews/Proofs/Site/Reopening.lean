import LiveViews.Proofs.Store.Restarts
import LiveViews.Site.Database

/-!
Runs of the program on one database. What a site has stored when a run ends is what the next run begins
with (`start_keep`), and a site leaves the databases of other paths alone (`Storage.database?_keep`).
-/

namespace LiveViews

open LiveViews.Store LiveViews.Config

structure Store.Stores.Kept (stores : Stores) : Prop where
  pages : stores.pages.Kept
  layouts : stores.layouts.Kept
  widgets : stores.widgets.Kept

theorem Store.Repository.Kept.openDisk {α : Type} [Row α] [Recorded α] {repository : Repository α}
    (kept : repository.Kept) : Repository.openDisk (repository.disk.getD []) = .ok repository := by
  have reopened := kept.reopen
  rw [Repository.reopen, kept.disk] at reopened
  rw [kept.disk]
  exact reopened

namespace Store.Stores

theorem Kept.openDatabase {stores : Stores} (kept : stores.Kept) :
    Stores.openDatabase stores.database = .ok stores := by
  unfold Stores.openDatabase Stores.database
  rw [kept.pages.openDisk, kept.layouts.openDisk, kept.widgets.openDisk]
  rfl

theorem kept_new : ∃ stores, openDatabase {} = .ok stores ∧ stores.Kept :=
  ⟨_, rfl, Repository.Kept.opened, Repository.Kept.opened, Repository.Kept.opened⟩

end Store.Stores

namespace Storage

variable {storage : Storage} {site : Site} {path : String}

theorem database?_keep (storage : Storage) (path other : String) (site : Site) :
    (storage.keep (some path) site).database? other =
      if other = path then some site.stores.database else storage.database? other := by
  unfold database? keep
  by_cases same : other = path
  · subst same
    simp
  · have apart : ¬path = other := fun back => same back.symm
    rw [if_neg same, List.find?_cons_of_neg (by simpa using apart), List.find?_filter]
    congr 2
    funext item
    by_cases here : item.1 = other <;> simp [here, same]

theorem openStores_keep (kept : site.stores.Kept) (storage : Storage) (path : String) :
    (storage.keep (some path) site).openStores (some path) = .ok site.stores := by
  have held := storage.database?_keep path path site
  rw [if_pos rfl] at held
  show ((storage.keep (some path) site).openFile path).bind _ = _
  rw [openFile, held]
  exact kept.openDatabase

end Storage

/-- A run that begins on the database that another run has kept begins with all that was stored. -/
theorem start_keep (storage : Storage) (site : Site) (kept : site.stores.Kept) (config : Config)
    (path : String) (database : config.store.database = some path) (now : Int) :
    (storage.keep (some path) site).start config now =
      (plant config (siteOf config site.tree now site.stores)).map id some := by
  unfold Storage.start
  rw [database, Storage.openStores_keep kept]
  rfl

end LiveViews
