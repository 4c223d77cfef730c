import LiveViews.Proofs.Site.Requests

/-!
What a step makes of the pages and widgets of a site that is served. Seeding and writing fill tables
with pages at normal paths, each of a name and a path of its own, and with widgets of different names
(`Stocked.serveAll`).
-/

namespace LiveViews

open LiveViews.Store LiveViews.Signal LiveViews.Web

theorem Store.RowChange.store_filed {α : Type} [Row α] [LawfulRow α] [LawfulKeys α]
    {repository : Repository α} {fits : α → Prop} (change : RowChange α)
    (filed : repository.table.Filed fits) (new : ∀ row, fits row) :
    (change.store repository).table.Filed fits := by
  cases change with
  | insert row =>
      rw [store]
      cases inserted : repository.insert row with
      | error error => exact filed
      | ok answer => exact filed.insert (Repository.insert_ok inserted).1 fun _ => new _
  | update row =>
      rw [store]
      cases updated : repository.update row with
      | error error => exact filed
      | ok later => exact filed.update (Repository.update_ok updated).1 (new row)

namespace Site

variable {site later : Site}

/-- What one step leaves in the stores, short of a direct edit of the pages. -/
inductive Supplied (site : Site) (stores : Stores) : Prop where
  | kept : stores = site.stores → Supplied site stores
  | page {request : PageRequest} {pages : Repository Page} : PageUpserted request site pages →
      stores = { site.stores with pages := pages } → Supplied site stores
  | widget {request : WidgetRequest} {widgets : Repository Store.Widget} :
      WidgetUpserted request site widgets →
      stores = { site.stores with widgets := widgets } → Supplied site stores
  | seeded {seed : Seed} {count : Nat} :
      seed.addTo site.settings.extension site.now site.stores = .ok (count, stores) →
      Supplied site stores
  | layouts (change : RowChange Layout) :
      stores = { site.stores with layouts := change.store site.stores.layouts } →
      Supplied site stores
  | widgets (change : RowChange Store.Widget) :
      stores = { site.stores with widgets := change.store site.stores.widgets } →
      Supplied site stores

structure Fed (site later : Site) : Prop where
  settings : later.settings = site.settings
  stores : site.Supplied later.stores

theorem fed_of_fresh (same : later.fresh = site.fresh) : site.Fed later :=
  ⟨settings_of_fresh same, .kept (stores_of_fresh same)⟩

theorem fed_writePage (calm : site.Calm) (request : PageRequest) :
    site.Fed (writePage request site).2 := by
  rcases writePage_ends calm request with ⟨error, same⟩ | ⟨page, pages, log, paths, upserted, same⟩
  · rw [same]
    exact fed_of_fresh rfl
  · rw [same]
    have fresh := (site.withPages pages log).fresh_signalAll paths
    have settings := settings_of_fresh fresh
    have stores := stores_of_fresh fresh
    exact ⟨settings, .page upserted stores⟩

theorem fed_writeWidget (site : Site) (request : WidgetRequest) :
    site.Fed (writeWidget request site).2 := by
  rcases writeWidget_ends site request with ⟨error, same⟩ | ⟨widget, widgets, upserted, same⟩
  · rw [same]
    exact fed_of_fresh rfl
  · rw [same]
    exact ⟨rfl, .widget upserted rfl⟩

theorem Orderly.fed_operate (orderly : site.Orderly) (operation : SiteOperation) :
    site.Fed (site.operate operation) := by
  cases operation with
  | writePage request => exact fed_writePage orderly.quiet.calm request
  | writeWidget request => exact fed_writeWidget site request
  | elapse | replaceFiles => exact ⟨rfl, .kept rfl⟩
  | signal | render | renderView | compile | resolve | fetch | lookFor =>
      exact fed_of_fresh (orderly.quiet.operate_reads rfl)

theorem Orderly.fed_observe (orderly : site.Orderly) (root : String) (operation : WatchedOperation) :
    site.Fed (site.observe root operation) := by
  cases operation with
  | use operation => exact orderly.fed_operate operation
  | notice files => exact fed_of_fresh (site.notified_handleChanges root files).fresh

theorem Orderly.fed_dispatch (orderly : site.Orderly) (fuel : Nat) (route : Route) (body : String) :
    site.Fed (LiveViews.dispatch fuel route body site).2 := by
  cases route with
  | home => exact fed_of_fresh (orderly.quiet.dispatch_reads fuel .home body rfl).2
  | view area controller action =>
      exact fed_of_fresh (orderly.quiet.dispatch_reads fuel (.view area controller action) body rfl).2
  | notFound => exact fed_of_fresh (orderly.quiet.dispatch_reads fuel .notFound body rfl).2
  | writePage =>
      unfold LiveViews.dispatch
      dsimp only
      cases PageRequest.ofText? body with
      | none => exact fed_of_fresh rfl
      | some request => exact fed_writePage orderly.quiet.calm request
  | writeWidget =>
      unfold LiveViews.dispatch
      dsimp only
      cases WidgetRequest.ofText? body with
      | none => exact fed_of_fresh rfl
      | some request => exact fed_writeWidget site request

theorem Fed.report (fed : site.Fed later) (line : LogLine) : site.Fed (later.report line) :=
  ⟨fed.settings, fed.stores⟩

theorem Orderly.fed_handleRequest (orderly : site.Orderly) (fuel : Nat) (method target : String)
    (body : ByteArray) : site.Fed (LiveViews.handleRequest fuel method target body site).2 := by
  unfold LiveViews.handleRequest
  dsimp only
  cases bodyText? (targetRoute method target) body with
  | none => exact fed_of_fresh rfl
  | some text =>
      have fed := orderly.fed_dispatch fuel (targetRoute method target) text
      simp only [SiteM.bind_apply]
      generalize LiveViews.dispatch fuel (targetRoute method target) text site = answer at fed ⊢
      obtain ⟨error | reply, after⟩ := answer
      · exact fed
      · dsimp only
        split
        · exact fed.report _
        · exact fed

theorem fed_seedFrom (site : Site) (path : String) : site.Fed (seedFrom path site).2 := by
  unfold seedFrom
  rw [SiteM.bind_apply, SiteM.get_apply]
  dsimp only
  cases fileText? site.tree path with
  | none => exact fed_of_fresh rfl
  | some text =>
      dsimp only
      cases (Toml.ofText? text).bind Seed.ofJson? with
      | none => exact fed_of_fresh rfl
      | some seed =>
          dsimp only
          unfold seedSite
          rw [SiteM.bind_apply, SiteM.get_apply]
          dsimp only
          cases added : seed.addTo site.settings.extension site.now site.stores with
          | error error => exact fed_of_fresh rfl
          | ok answer => exact ⟨rfl, .seeded added⟩

/-- Whether a step goes past the ways in which pages are written. -/
def ServedStep.editsPages : ServedStep → Bool
  | .changePages _ => true
  | _ => false

theorem Orderly.fed_serve (orderly : site.Orderly) (root : String) {step : ServedStep}
    (written : step.editsPages = false) : site.Fed (site.serve root step) := by
  cases step with
  | observe operation => exact orderly.fed_observe root operation
  | request fuel method target body => exact orderly.fed_handleRequest fuel method target body
  | seed path => exact site.fed_seedFrom path
  | subscribe path callback =>
      exact fed_of_fresh ((site.notified_tokenOf path).trans (notified_register _ _ callback)).fresh
  | forget key => exact fed_of_fresh (site.notified_invalidate key).fresh
  | changePages change => cases written
  | changeLayouts change => exact ⟨rfl, .layouts change rfl⟩
  | changeWidgets change => exact ⟨rfl, .widgets change rfl⟩

/-- Tables as seeding and writing fill them: every page stands at the normal path of some spelling. -/
structure Stocked (site : Site) : Prop where
  pages : site.stores.pages.table.Filed fun page => ∃ key, site.normal key = page.path
  layouts : site.stores.layouts.table.Sound
  widgets : site.stores.widgets.table.Filed fun _ => True

theorem stocked_of_empty (empty : site.stores = {}) : site.Stocked := by
  constructor
  · rw [empty]
    exact Table.filed_new
  · rw [empty]
    exact Table.sound_new
  · rw [empty]
    exact Table.filed_new

theorem Stocked.sound (stocked : site.Stocked) : site.stores.Sound :=
  ⟨stocked.pages.sound, stocked.layouts, stocked.widgets.sound⟩

theorem Stocked.fed (stocked : site.Stocked) (fed : site.Fed later) : later.Stocked := by
  have normal : later.normal = site.normal :=
    normal_of_same (congrArg View.Settings.extension fed.settings)
  obtain ⟨pages, layouts, widgets⟩ := stocked
  rw [← normal] at pages
  cases fed.stores with
  | kept same =>
      rw [← same] at pages layouts widgets
      exact ⟨pages, layouts, widgets⟩
  | @page request written upserted same =>
      have filed := Upserted.filed upserted pages (fun _ => ⟨request.path, by rw [normal]; rfl⟩)
        fun _ known => known
      exact ⟨same ▸ filed, same ▸ layouts, same ▸ widgets⟩
  | widget upserted same =>
      have filed := Upserted.filed upserted widgets (fun _ => trivial) fun _ _ => trivial
      exact ⟨same ▸ pages, same ▸ layouts, same ▸ filed⟩
  | seeded added =>
      obtain ⟨⟨_, layoutRows⟩, ⟨_, pageRows⟩, _, widgetRows⟩ := Seed.addTo_ok added
      refine ⟨Seed.addRows_filed pages ?_ pageRows, Seed.addRows_sound layouts layoutRows,
        Seed.addRows_filed widgets (fun _ _ _ => trivial) widgetRows⟩
      intro row member id
      obtain ⟨page, _, rfl⟩ := List.mem_map.mp member
      exact ⟨page.path, by rw [normal]; rfl⟩
  | layouts change same =>
      exact ⟨same ▸ pages, same ▸ change.store_sound layouts, same ▸ widgets⟩
  | widgets change same =>
      have filed := change.store_filed widgets fun _ => trivial
      exact ⟨same ▸ pages, same ▸ layouts, same ▸ filed⟩

theorem Stocked.serveAll (stocked : site.Stocked) (orderly : site.Orderly) (root : String)
    {steps : List ServedStep} (written : ∀ step ∈ steps, step.editsPages = false) :
    (site.serveAll root steps).Stocked := by
  induction steps generalizing site with
  | nil => exact stocked
  | cons step rest ih =>
      have fed := orderly.fed_serve root (written step List.mem_cons_self)
      apply ih (stocked.fed fed) (orderly.serve root step)
      intro other member
      exact written other (List.mem_cons_of_mem _ member)

end Site

end LiveViews
