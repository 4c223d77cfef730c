import LiveViews.Store.Repository

/-!
The stored tables of a site, and the database that may keep them on disk.
-/

namespace LiveViews.Store

structure Stores where
  pages : Repository Page := {}
  layouts : Repository Layout := {}
  widgets : Repository Widget := {}

structure Database where
  pages : Disk := []
  layouts : Disk := []
  widgets : Disk := []

namespace Stores

def openDatabase (database : Database) : Except StoreError Stores := do
  return {
    pages := ← Repository.openDisk database.pages
    layouts := ← Repository.openDisk database.layouts
    widgets := ← Repository.openDisk database.widgets }

def database (stores : Stores) : Database where
  pages := stores.pages.disk.getD []
  layouts := stores.layouts.disk.getD []
  widgets := stores.widgets.disk.getD []

end Stores

end LiveViews.Store
