import LiveViews.Proofs.Site.FileEdits
import LiveViews.Proofs.Store.Filing
import LiveViews.Site.Dispatch
import LiveViews.Site.Seed

/-!
Requests. A request to write that is not accepted leaves the whole site as it was, one that is accepted
upserts the row of its name, and no other request changes a table (`refused_write_changes_nothing`).
-/

namespace LiveViews

open LiveViews.Store LiveViews.Signal LiveViews.Web
open LiveViews.Liquid (Value)

structure Store.Stores.Sound (stores : Stores) : Prop where
  pages : stores.pages.table.Sound
  layouts : stores.layouts.table.Sound
  widgets : stores.widgets.table.Sound

theorem Store.sound_emptyStores : Stores.Sound {} :=
  ⟨Table.sound_new, Table.sound_new, Table.sound_new⟩

namespace Store.RowChange

variable {α : Type} [Row α]

def store (repository : Repository α) : RowChange α → Repository α
  | .insert row =>
    match repository.insert row with
    | .ok (_, later) => later
    | .error _ => repository
  | .update row =>
    match repository.update row with
    | .ok later => later
    | .error _ => repository

theorem store_sound [LawfulRow α] {repository : Repository α} (change : RowChange α)
    (sound : repository.table.Sound) : (change.store repository).table.Sound := by
  cases change with
  | insert row =>
      rw [store]
      cases inserted : repository.insert row with
      | error error => exact sound
      | ok answer => exact sound.insert (Repository.insert_ok inserted).1
  | update row =>
      rw [store]
      cases updated : repository.update row with
      | error error => exact sound
      | ok later => exact sound.update (Repository.update_ok updated).1

end Store.RowChange

namespace Store.Seed

theorem addRows_sound {α : Type} [Row α] [LawfulRow α] {rows : List α}
    {repository later : Repository α} {count : Nat} (sound : repository.table.Sound)
    (added : addRows rows repository = .ok (count, later)) : later.table.Sound := by
  apply addRows_keeps (motive := fun repository => repository.table.Sound) _ sound added
  intro row _ repository stored later sound inserted
  exact sound.insert (Repository.insert_ok inserted).1

theorem addTo_sound {seed : Seed} {extension : String} {now : Int} {stores later : Stores}
    {count : Nat} (sound : stores.Sound)
    (added : seed.addTo extension now stores = .ok (count, later)) : later.Sound := by
  obtain ⟨⟨_, layouts⟩, ⟨_, pages⟩, _, widgets⟩ := addTo_ok added
  exact ⟨addRows_sound sound.pages pages, addRows_sound sound.layouts layouts,
    addRows_sound sound.widgets widgets⟩

end Store.Seed

namespace Site

variable {site : Site}

def newWidget (site : Site) (request : WidgetRequest) : Store.Widget :=
  { name := request.name, content := request.content, createdAt := site.now }

def editedWidget (site : Site) (content : String) (widget : Store.Widget) : Store.Widget :=
  { widget with content := content, updatedAt := some site.now }

def withWidgets (site : Site) (widgets : Repository Store.Widget) : Site :=
  { site with stores := { site.stores with widgets := widgets } }

/-- A page is written to the site: the row of its name is upserted, and the change is signalled. -/
def PageUpserted (request : PageRequest) (site : Site) (pages : Repository Page) : Prop :=
  Upserted (fun page => page.name = request.name) (site.newPage request (site.normal request.path))
    (fun page => site.editedPage page request.content) site.stores.pages pages

def WidgetUpserted (request : WidgetRequest) (site : Site) (widgets : Repository Store.Widget) :
    Prop :=
  Upserted (fun widget => widget.name = request.name) (site.newWidget request)
    (site.editedWidget request.content) site.stores.widgets widgets

theorem writePage_ends (calm : site.Calm) (request : PageRequest) :
    (∃ error, writePage request site = (.error error, site)) ∨
    ∃ page pages log paths, PageUpserted request site pages ∧
      writePage request site = (.ok page, (site.withPages pages log).signalAll paths) := by
  have read := readPage_calm calm fun page => page.name = request.name
  unfold writePage
  cases request.blank? with
  | some field => exact Or.inl ⟨_, rfl⟩
  | none =>
      simp only [normalOf, SiteM.bind_apply, SiteM.get_apply, SiteM.pure_apply, read]
      cases found : site.stores.pages.table.find? fun page => page.name = request.name with
      | none =>
          simp only [SiteM.bind_apply, addPage_eq]
          generalize inserted : site.stores.pages.insert _ = answer
          obtain error | ⟨stored, pages⟩ := answer
          · exact Or.inl ⟨_, rfl⟩
          · exact Or.inr ⟨stored, pages, _, [site.normal request.path], .added found inserted, rfl⟩
      | some page =>
          simp only [SiteM.bind_apply, replacePage_eq]
          cases updated : site.stores.pages.update (site.editedPage page request.content) with
          | error error => exact Or.inl ⟨_, rfl⟩
          | ok pages =>
              refine Or.inr ⟨site.editedPage page request.content, pages, site.log,
                (if page.path ≠ site.normal request.path then [page.path] else []) ++
                  [site.normal request.path], .edited found updated, ?_⟩
              simp only [Site.signalAll]
              rw [List.foldl_append]
              rfl

theorem writeWidget_ends (site : Site) (request : WidgetRequest) :
    (∃ error, writeWidget request site = (.error error, site)) ∨
    ∃ widget widgets, WidgetUpserted request site widgets ∧
      writeWidget request site = (.ok widget, site.withWidgets widgets) := by
  unfold writeWidget
  cases request.blank? with
  | some field => exact Or.inl ⟨_, rfl⟩
  | none =>
      simp only [SiteM.bind_apply, SiteM.get_apply]
      cases found : site.stores.widgets.table.find? fun widget => widget.name = request.name with
      | none =>
          dsimp only
          generalize inserted : site.stores.widgets.insert _ = answer
          obtain error | ⟨stored, widgets⟩ := answer
          · exact Or.inl ⟨_, rfl⟩
          · exact Or.inr ⟨stored, widgets, .added found inserted, rfl⟩
      | some widget =>
          dsimp only
          generalize updated : site.stores.widgets.update _ = answer
          obtain error | widgets := answer
          · exact Or.inl ⟨_, rfl⟩
          · exact Or.inr ⟨_, widgets, .edited found updated, rfl⟩

theorem stores_of_fresh {other : Site} (same : other.fresh = site.fresh) :
    other.stores = site.stores := by
  show other.fresh.stores = site.fresh.stores
  rw [same]

theorem PageUpserted.sound {request : PageRequest} {pages : Repository Page} (sound : site.stores.Sound)
    (upserted : PageUpserted request site pages) :
    ({ site.stores with pages := pages } : Stores).Sound :=
  ⟨Upserted.sound upserted sound.pages, sound.layouts, sound.widgets⟩

theorem WidgetUpserted.sound {request : WidgetRequest} {widgets : Repository Store.Widget}
    (sound : site.stores.Sound) (upserted : WidgetUpserted request site widgets) :
    ({ site.stores with widgets := widgets } : Stores).Sound :=
  ⟨sound.pages, sound.layouts, Upserted.sound upserted sound.widgets⟩

theorem PageUpserted.rewritten {request : PageRequest} {pages : Repository Page}
    (sound : site.stores.Sound) (upserted : PageUpserted request site pages) :
    ∃ page, page.body = request.content ∧
      Rewritten (fun page => page.name = request.name) page site.stores.pages.table pages.table := by
  refine Upserted.rewritten upserted sound.pages (fun id => ⟨decide_eq_true rfl, rfl⟩)
    (fun row named => ⟨named, rfl, rfl⟩)
    (fun row other own also => ⟨("name", row.name), List.mem_cons_self, ?_⟩)
  rw [of_decide_eq_true own, ← of_decide_eq_true also]
  exact List.mem_cons_self

theorem WidgetUpserted.rewritten {request : WidgetRequest} {widgets : Repository Store.Widget}
    (sound : site.stores.Sound) (upserted : WidgetUpserted request site widgets) :
    ∃ widget, widget.content = request.content ∧
      Rewritten (fun widget => widget.name = request.name) widget site.stores.widgets.table
        widgets.table := by
  refine Upserted.rewritten upserted sound.widgets (fun id => ⟨decide_eq_true rfl, rfl⟩)
    (fun row named => ⟨named, rfl, rfl⟩)
    (fun row other own also => ⟨("name", row.name), List.mem_cons_self, ?_⟩)
  rw [of_decide_eq_true own, ← of_decide_eq_true also]
  exact List.mem_cons_self

theorem stores_signalAll (pages : Repository Page) (log : List LogLine) (paths : List String) :
    ((site.withPages pages log).signalAll paths).stores = { site.stores with pages := pages } :=
  stores_of_fresh ((site.withPages pages log).fresh_signalAll paths)

theorem writePage_sound (calm : site.Calm) (sound : site.stores.Sound) (request : PageRequest) :
    (writePage request site).2.stores.Sound := by
  rcases writePage_ends calm request with ⟨error, same⟩ | ⟨page, pages, log, paths, upserted, same⟩
  · rw [same]
    exact sound
  · rw [same]
    show ((site.withPages pages log).signalAll paths).stores.Sound
    rw [stores_signalAll]
    exact upserted.sound sound

theorem writeWidget_sound (sound : site.stores.Sound) (request : WidgetRequest) :
    (writeWidget request site).2.stores.Sound := by
  rcases writeWidget_ends site request with ⟨error, same⟩ | ⟨widget, widgets, upserted, same⟩
  · rw [same]
    exact sound
  · rw [same]
    exact upserted.sound sound

structure Orderly (site : Site) : Prop where
  quiet : site.Quiet
  sound : site.stores.Sound

namespace Orderly

theorem of_fresh {other : Site} (orderly : site.Orderly) (quiet : other.Quiet)
    (same : other.fresh = site.fresh) : other.Orderly :=
  ⟨quiet, stores_of_fresh same ▸ orderly.sound⟩

theorem notified {other : Site} (orderly : site.Orderly) (notified : site.Notified other) :
    other.Orderly :=
  orderly.of_fresh (orderly.quiet.notified notified) notified.fresh

theorem withStores {stores : Stores} (orderly : site.Orderly) (sound : stores.Sound) :
    Orderly { site with stores := stores } :=
  ⟨⟨orderly.quiet.calm, orderly.quiet.memory⟩, sound⟩

theorem operate (orderly : site.Orderly) (operation : SiteOperation) :
    (site.operate operation).Orderly := by
  refine ⟨orderly.quiet.operate operation, ?_⟩
  cases operation with
  | writePage request => exact writePage_sound orderly.quiet.calm orderly.sound request
  | writeWidget request => exact writeWidget_sound orderly.sound request
  | elapse | replaceFiles => exact orderly.sound
  | signal | render | renderView | compile | resolve | fetch | lookFor =>
      rw [stores_of_fresh (orderly.quiet.operate_reads rfl)]
      exact orderly.sound

theorem observe (orderly : site.Orderly) (root : String) (operation : WatchedOperation) :
    (site.observe root operation).Orderly := by
  cases operation with
  | use operation => exact orderly.operate operation
  | notice files => exact orderly.notified (site.notified_handleChanges root files)

theorem seed (orderly : site.Orderly) (path : String) : (seedFrom path site).2.Orderly := by
  unfold seedFrom
  rw [SiteM.bind_apply, SiteM.get_apply]
  dsimp only
  cases fileText? site.tree path with
  | none => exact orderly
  | some text =>
      dsimp only
      cases (Toml.ofText? text).bind Seed.ofJson? with
      | none => exact orderly
      | some seed =>
          dsimp only
          unfold seedSite
          rw [SiteM.bind_apply, SiteM.get_apply]
          dsimp only
          cases added : seed.addTo site.settings.extension site.now site.stores with
          | error error => exact orderly
          | ok answer => exact orderly.withStores (Seed.addTo_sound orderly.sound added)

end Orderly

theorem Quiet.answerHome (quiet : site.Quiet) (fuel : Nat) :
    (LiveViews.answerHome fuel site).2.Quiet ∧
      (LiveViews.answerHome fuel site).2.fresh = site.fresh := by
  have named : pageNamed site.settings.homePage site =
      (site.stores.pages.table.find? fun page =>
        page.name = site.settings.homePage && page.status = .active, site) :=
    readPage_calm quiet.calm _
  unfold LiveViews.answerHome
  simp only [SiteM.bind_apply, SiteM.get_apply, named]
  cases site.stores.pages.table.find? _ with
  | none => exact ⟨quiet, rfl⟩
  | some page =>
      simp only [SiteM.bind_apply, SiteM.pure_apply]
      exact quiet.renderView fuel "Index" _ _

theorem Quiet.dispatch_reads (quiet : site.Quiet) (fuel : Nat) (route : Route) (body : String)
    (reads : needsBody route = false) : (dispatch fuel route body site).2.Quiet ∧
      (dispatch fuel route body site).2.fresh = site.fresh := by
  cases route with
  | home => exact quiet.answerHome fuel
  | view area controller action =>
      unfold dispatch
      simp only [SiteM.bind_apply, SiteM.pure_apply]
      exact quiet.renderView fuel action _ .nil
  | writePage | writeWidget => cases reads
  | notFound => exact ⟨quiet, rfl⟩

/-- What a request that is accepted makes of the stores. -/
def Accepted (body : String) (stores later : Stores) : Route → Prop
  | .writePage => ∃ request page, PageRequest.ofText? body = some request ∧
    page.body = request.content ∧
    Rewritten (fun page => page.name = request.name) page stores.pages.table later.pages.table ∧
    later.layouts = stores.layouts ∧ later.widgets = stores.widgets
  | .writeWidget => ∃ request widget, WidgetRequest.ofText? body = some request ∧
    widget.content = request.content ∧
    Rewritten (fun widget => widget.name = request.name) widget stores.widgets.table
      later.widgets.table ∧
    later.layouts = stores.layouts ∧ later.pages = stores.pages
  | _ => later = stores

/-- A request to write is answered; it is refused and changes nothing, or accepted. -/
inductive WriteAnswer (body : String) (route : Route) (site : Site) : Answered × Site → Prop where
  | refused {reply : Reply} : reply.status ≠ 200 → WriteAnswer body route site (.ok reply, site)
  | accepted {later : Site} : later.Orderly → Accepted body site.stores later.stores route →
      WriteAnswer body route site (.ok .accepted, later)

theorem refusal_status {α : Type} (error : WriteError) :
    (writeReply (.error error : Except WriteError α)).status ≠ 200 := by
  show writeStatus error ≠ 200
  unfold writeStatus
  split <;> decide

theorem Orderly.dispatch_writePage (orderly : site.Orderly) (fuel : Nat) (body : String) :
    WriteAnswer body .writePage site (dispatch fuel .writePage body site) := by
  unfold dispatch
  dsimp only
  cases read : PageRequest.ofText? body with
  | none => exact .refused (by decide)
  | some request =>
      simp only [SiteM.bind_apply, SiteM.pure_apply]
      rcases writePage_ends orderly.quiet.calm request with ⟨error, same⟩ |
        ⟨page, pages, log, paths, upserted, same⟩
      · rw [same]
        exact .refused (refusal_status error)
      · rw [same]
        have stores := site.stores_signalAll pages log paths
        have written : (site.withPages pages log).Orderly :=
          ⟨⟨orderly.quiet.calm, orderly.quiet.memory⟩, upserted.sound orderly.sound⟩
        refine .accepted (written.notified (notified_signalAll _ paths)) ?_
        obtain ⟨row, content, rewritten⟩ := upserted.rewritten orderly.sound
        rw [stores]
        exact ⟨request, row, read, content, rewritten, rfl, rfl⟩

theorem Orderly.dispatch_writeWidget (orderly : site.Orderly) (fuel : Nat) (body : String) :
    WriteAnswer body .writeWidget site (dispatch fuel .writeWidget body site) := by
  unfold dispatch
  dsimp only
  cases read : WidgetRequest.ofText? body with
  | none => exact .refused (by decide)
  | some request =>
      simp only [SiteM.bind_apply, SiteM.pure_apply]
      rcases writeWidget_ends site request with ⟨error, same⟩ | ⟨widget, widgets, upserted, same⟩
      · rw [same]
        exact .refused (refusal_status error)
      · rw [same]
        refine .accepted (orderly.withStores (upserted.sound orderly.sound)) ?_
        obtain ⟨row, content, rewritten⟩ := upserted.rewritten orderly.sound
        exact ⟨request, row, read, content, rewritten, rfl, rfl⟩

theorem Orderly.dispatch_writes (orderly : site.Orderly) (fuel : Nat) (route : Route) (body : String)
    (writes : needsBody route = true) : WriteAnswer body route site (dispatch fuel route body site) := by
  cases route with
  | writePage => exact orderly.dispatch_writePage fuel body
  | writeWidget => exact orderly.dispatch_writeWidget fuel body
  | home | view | notFound => cases writes

theorem Orderly.dispatch (orderly : site.Orderly) (fuel : Nat) (route : Route) (body : String) :
    (dispatch fuel route body site).2.Orderly := by
  cases writes : needsBody route with
  | false =>
      obtain ⟨quiet, same⟩ := orderly.quiet.dispatch_reads fuel route body writes
      exact orderly.of_fresh quiet same
  | true =>
      have answered := orderly.dispatch_writes fuel route body writes
      generalize LiveViews.dispatch fuel route body site = answer at answered ⊢
      cases answered with
      | refused => exact orderly
      | accepted later => exact later

theorem Orderly.report (orderly : site.Orderly) (line : LogLine) : (site.report line).Orderly :=
  orderly.notified ((Echoes.refl site).report line).notified

theorem Orderly.handleRequest (orderly : site.Orderly) (fuel : Nat) (method target : String)
    (body : ByteArray) : (handleRequest fuel method target body site).2.Orderly := by
  unfold LiveViews.handleRequest
  dsimp only
  cases bodyText? (targetRoute method target) body with
  | none => exact orderly
  | some text =>
      have after := orderly.dispatch fuel (targetRoute method target) text
      simp only [SiteM.bind_apply]
      generalize LiveViews.dispatch fuel (targetRoute method target) text site = answer at after ⊢
      obtain ⟨error | reply, later⟩ := answer
      · exact after
      · dsimp only
        split
        · exact after.report _
        · exact after

inductive ServedStep where
  | observe (operation : WatchedOperation)
  | request (fuel : Nat) (method target : String) (body : ByteArray)
  | seed (path : String)
  | subscribe (path : String) (callback : Callback SiteEffect)
  | forget (key : String)
  | changePages (change : RowChange Page)
  | changeLayouts (change : RowChange Layout)
  | changeWidgets (change : RowChange Store.Widget)

def serve (root : String) (site : Site) : ServedStep → Site
  | .observe operation => site.observe root operation
  | .request fuel method target body => (LiveViews.handleRequest fuel method target body site).2
  | .seed path => (seedFrom path site).2
  | .subscribe path callback =>
    let (token, site) := tokenOf path site
    (register token callback site).2
  | .forget key => site.invalidate key
  | .changePages change =>
    { site with stores := { site.stores with pages := change.store site.stores.pages } }
  | .changeLayouts change =>
    { site with stores := { site.stores with layouts := change.store site.stores.layouts } }
  | .changeWidgets change =>
    { site with stores := { site.stores with widgets := change.store site.stores.widgets } }

def serveAll (root : String) (site : Site) (steps : List ServedStep) : Site :=
  steps.foldl (serve root) site

theorem notified_invalidate (site : Site) (key : String) : site.Notified (site.invalidate key) :=
  ⟨rfl, rfl, fun _ member => List.mem_of_mem_filter member⟩

theorem Orderly.serve (orderly : site.Orderly) (root : String) (step : ServedStep) :
    (site.serve root step).Orderly := by
  obtain ⟨pages, layouts, widgets⟩ := orderly.sound
  cases step with
  | observe operation => exact orderly.observe root operation
  | request fuel method target body => exact orderly.handleRequest fuel method target body
  | seed path => exact orderly.seed path
  | subscribe path callback =>
      exact orderly.notified ((site.notified_tokenOf path).trans (notified_register _ _ callback))
  | forget key => exact orderly.notified (site.notified_invalidate key)
  | changePages change => exact orderly.withStores ⟨change.store_sound pages, layouts, widgets⟩
  | changeLayouts change => exact orderly.withStores ⟨pages, change.store_sound layouts, widgets⟩
  | changeWidgets change => exact orderly.withStores ⟨pages, layouts, change.store_sound widgets⟩

theorem Orderly.serveAll (orderly : site.Orderly) (root : String) (steps : List ServedStep) :
    (site.serveAll root steps).Orderly := by
  induction steps generalizing site with
  | nil => exact orderly
  | cons step rest ih => exact ih (orderly.serve root step)

end Site

/-- A request to write is answered. With any other status than 200 it leaves the site as it was; with
200 the row of its name holds what was submitted and the others are as they were. No other request
changes a table. -/
theorem refused_write_changes_nothing (start : Site) (opened : start.Opened)
    (sound : start.stores.Sound) (root : String) (steps : List Site.ServedStep) (fuel : Nat)
    (route : Route) (body : String) :
    let site := start.serveAll root steps
    let answer := dispatch fuel route body site
    (needsBody route = true → ∃ reply, answer.1 = .ok reply ∧ (reply.status ≠ 200 → answer.2 = site) ∧
      (reply.status = 200 → Site.Accepted body site.stores answer.2.stores route)) ∧
    (needsBody route = false → answer.2.stores = site.stores) := by
  have orderly := Site.Orderly.serveAll ⟨opened.steady.quiet, sound⟩ root steps
  have writing := orderly.dispatch_writes fuel route body
  have reading := orderly.quiet.dispatch_reads fuel route body
  intro site answer
  refine ⟨fun writes => ?_, fun reads => Site.stores_of_fresh (reading reads).2⟩
  have written := writing writes
  change Site.WriteAnswer body route site answer at written
  clear_value answer
  cases written with
  | refused status => exact ⟨_, rfl, fun _ => rfl, fun accepted => absurd accepted status⟩
  | accepted _ filed => exact ⟨_, rfl, fun refused => absurd rfl refused, fun _ => filed⟩

def pageBody (name content path : String) : String :=
  "\x7b\"Name\":\"" ++ name ++ "\",\"Content\":\"" ++ content ++ "\",\"Path\":\"" ++ path ++
    "\"\x7d"

def servedNote : List Site.ServedStep :=
  [.observe (.use (.writePage ⟨"a", "A", "/a"⟩)), .subscribe "/a" (.mk (.tell "changed") .done),
    .observe (.use (.render 8 "/a" .nil [] .stored {}))]

theorem refused_write_changes_nothing_notes : Site.Opened {} ∧ Stores.Sound {} ∧
    (dispatch 8 .writePage (pageBody "b" "B" "/a") (({} : Site).serveAll "" servedNote)).2 =
      ({} : Site).serveAll "" servedNote := by
  have opened : Site.Opened {} := ⟨rfl, rfl, rfl, rfl⟩
  have status : (dispatch 8 .writePage (pageBody "b" "B" "/a")
      (({} : Site).serveAll "" servedNote)).1.toOption.map Reply.status = some 409 := by
    decide +kernel
  have answered := refused_write_changes_nothing {} opened sound_emptyStores "" servedNote 8 .writePage
    (pageBody "b" "B" "/a")
  refine ⟨opened, sound_emptyStores, ?_⟩
  obtain ⟨reply, same, refused, _⟩ := answered.1 rfl
  refine refused fun accepted => ?_
  rw [same] at status
  cases (Option.some.inj status).symm.trans accepted

end LiveViews
