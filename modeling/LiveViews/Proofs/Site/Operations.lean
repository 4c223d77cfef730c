import LiveViews.Proofs.Site.Rendering

/-!
What a site is used for, and that it stays quiet and steady. A page that is written changes the store
first and then signals the paths that the change shows at (`writePage_cases`).
-/

namespace LiveViews

open LiveViews.Store LiveViews.Signal
open LiveViews.Liquid (Template Value Members)

inductive SiteOperation where
  | writePage (request : PageRequest)
  | writeWidget (request : WidgetRequest)
  | signal (path : String)
  | render (fuel : Nat) (path : String) (model : Value) (ambient : Members) (services : Services)
      (sink : Sink)
  | renderView (fuel : Nat) (name : String) (routing : View.Routing) (model : Value)
  | compile (path : String)
  | resolve (path : String)
  | fetch (path : String)
  | lookFor (path : String)
  | elapse (now : Int)
  /-- The files change, of which nobody is told. -/
  | replaceFiles (tree : File.Tree)

namespace Site

variable {site : Site}

def operate (site : Site) : SiteOperation → Site
  | .writePage request => (writePage request site).2
  | .writeWidget request => (writeWidget request site).2
  | .signal path => (signal path site).2
  | .render fuel path model ambient services sink =>
    (renderInto fuel path model ambient services.source sink site).2
  | .renderView fuel name routing model => (renderView fuel name routing model site).2
  | .compile path => (compiledView path site).2
  | .resolve path => (resolve path site).2
  | .fetch path => (fetch path site).2
  | .lookFor path => (viewExists path site).2
  | .elapse now => { site with now := now }
  | .replaceFiles tree => { site with tree := tree }

def operateAll (site : Site) (operations : List SiteOperation) : Site :=
  operations.foldl operate site

theorem operate_render (site : Site) (fuel : Nat) (path : String) (model : Value) (ambient : Members)
    (services : Services) (sink : Sink) :
    site.operate (.render fuel path model ambient services sink) =
      (LiveViews.renderPath fuel path model ambient services.source site).2 := by
  rw [operate, renderInto_eq]

/-- A site that was just opened on its stores. -/
structure Opened (site : Site) : Prop where
  calm : site.Calm
  compiled : site.compiled = []
  tracked : site.tracked = []
  slots : site.bus.slots = []

theorem Opened.wired (opened : site.Opened) : site.Wired := by
  have untracked : ∀ path, site.tracked? path = none := by
    intro path
    simp [tracked?, opened.tracked]
  constructor
  · exact Bus.sound_of_slots_nil opened.slots
  · intro path key member
    simp [keysAt, untracked] at member
  · intro path entry tracked
    rw [untracked] at tracked
    cases tracked
  · simp [opened.slots]

theorem Opened.compiled? (opened : site.Opened) (key : String) : site.compiled? key = none := by
  simp [Site.compiled?, opened.compiled]

theorem Opened.covered (opened : site.Opened) : site.Covered := by
  intro key held
  simp [holds, opened.compiled?] at held

theorem Opened.steady (opened : site.Opened) : site.Steady :=
  ⟨opened.calm, ⟨opened.wired, opened.covered, by simp [opened.slots]⟩, by simp [opened.compiled]⟩

def signalAll (paths : List String) (site : Site) : Site :=
  paths.foldl (fun site path => (LiveViews.signal path site).2) site

def withPages (site : Site) (pages : Repository Page) (log : List LogLine) : Site :=
  { site with stores := { site.stores with pages := pages }, log := log }

theorem notified_signalAll (site : Site) (paths : List String) :
    site.Notified (site.signalAll paths) := by
  induction paths generalizing site with
  | nil => exact .refl site
  | cons path rest ih => exact (site.notified_signal path).trans (ih _)

theorem fresh_signalAll (site : Site) (paths : List String) :
    (site.signalAll paths).fresh = site.fresh :=
  (site.notified_signalAll paths).fresh

theorem Steady.of_quiet (quiet : site.Quiet) (indexed : site.Indexed) : site.Steady :=
  ⟨quiet.calm, indexed, quiet.memory⟩

theorem Steady.signal (steady : site.Steady) (path : String) :
    (LiveViews.signal path site).2.Steady :=
  .of_quiet (steady.quiet.notified (site.notified_signal path)) (steady.indexed.signal path)

theorem Steady.signalAll (steady : site.Steady) (paths : List String) :
    (site.signalAll paths).Steady ∧ (site.signalAll paths).fresh = site.fresh := by
  refine ⟨?_, site.fresh_signalAll paths⟩
  induction paths generalizing site with
  | nil => exact steady
  | cons path rest ih => exact ih (steady.signal path)

theorem Steady.withPages (steady : site.Steady) (pages : Repository Page) (log : List LogLine) :
    (site.withPages pages log).Steady :=
  ⟨steady.calm, steady.indexed.of_same rfl rfl rfl fun _ held => held, steady.memory⟩

end Site

inductive PagesEdit (pages later : Repository Page) (paths : List String) : Prop where
  | added {row stored : Page} : pages.insert row = .ok (stored, later) → row.path ∈ paths →
      PagesEdit pages later paths
  | replaced {page row : Page} : page ∈ pages.table.rows → row.id = page.id →
      row.path = page.path → pages.update row = .ok later → page.path ∈ paths →
      PagesEdit pages later paths

def Site.newPage (site : Site) (request : PageRequest) (path : String) : Page :=
  { name := request.name, path := path, body := request.content, createdAt := site.now }

def Site.editedPage (site : Site) (page : Page) (content : String) : Page :=
  { page with body := content, updatedAt := some site.now }

theorem addPage_eq (site : Site) (request : PageRequest) (path : String) :
    addPage request path site = match site.stores.pages.insert (site.newPage request path) with
      | .error error => (.error (.store error), site)
      | .ok (stored, pages) => (.ok stored, site.withPages pages
          (site.log ++ [⟨"store", "added page `" ++ stored.name ++ "` at " ++ stored.path⟩])) := by
  unfold addPage
  rw [SiteM.bind_apply, SiteM.get_apply]
  change (match site.stores.pages.insert (site.newPage request path) with
    | .error error => _ | .ok (stored, pages) => _ : SiteM _) site = _
  cases site.stores.pages.insert (site.newPage request path) <;> rfl

theorem replacePage_eq (site : Site) (page : Page) (content path : String) :
    replacePage page content path site =
      match site.stores.pages.update (site.editedPage page content) with
      | .error error => (.error (.store error), site)
      | .ok pages => (.ok (site.editedPage page content), (site.withPages pages site.log).signalAll
          (if page.path ≠ path then [page.path] else [])) := by
  unfold replacePage
  rw [SiteM.bind_apply, SiteM.get_apply]
  change (match site.stores.pages.update (site.editedPage page content) with
    | .error error => _ | .ok pages => _ : SiteM _) site = _
  cases site.stores.pages.update (site.editedPage page content) with
  | error error => rfl
  | ok pages =>
      by_cases other : page.path ≠ path
      · rw [if_pos other]
        simp [other]
        rfl
      · rw [if_neg other]
        simp [other]
        rfl

/-- What a request changes in the store, and the paths at which that is to be signalled. -/
def changePage (request : PageRequest) (site : Site) : List String × Site :=
  let path := site.normal request.path
  match request.blank? with
  | some _ => ([], site)
  | none =>
    match site.stores.pages.table.find? fun page => page.name = request.name with
    | none =>
      match site.stores.pages.insert (site.newPage request path) with
      | .error _ => ([], site)
      | .ok (stored, pages) => ([path], site.withPages pages
          (site.log ++ [⟨"store", "added page `" ++ stored.name ++ "` at " ++ stored.path⟩]))
    | some page =>
      match site.stores.pages.update (site.editedPage page request.content) with
      | .error _ => ([], site)
      | .ok pages =>
        ((if page.path ≠ path then [page.path] else []) ++ [path], site.withPages pages site.log)

/-- To write a page is to change the store and then to signal the change. -/
theorem writePage_eq {site : Site} (calm : site.Calm) (request : PageRequest) :
    (writePage request site).2 =
      (changePage request site).2.signalAll (changePage request site).1 := by
  have read := readPage_calm calm fun page => page.name = request.name
  unfold writePage changePage
  cases request.blank? with
  | some field => rfl
  | none =>
      simp only [normalOf, SiteM.bind_apply, SiteM.get_apply, SiteM.pure_apply, read]
      cases site.stores.pages.table.find? fun page => page.name = request.name with
      | none =>
          simp only [SiteM.bind_apply, addPage_eq]
          unfold Site.normal
          cases site.stores.pages.insert (site.newPage request _) <;> rfl
      | some page =>
          simp only [SiteM.bind_apply, replacePage_eq]
          unfold Site.normal
          cases site.stores.pages.update (site.editedPage page request.content) with
          | error error => rfl
          | ok pages =>
              simp only [Site.signalAll]
              rw [List.foldl_append]
              rfl

theorem changePage_cases (site : Site) (request : PageRequest) :
    changePage request site = ([], site) ∨ ∃ pages log paths,
      PagesEdit site.stores.pages pages paths ∧
      changePage request site = (paths, site.withPages pages log) := by
  unfold changePage
  cases request.blank? with
  | some field => exact Or.inl rfl
  | none =>
      cases found : site.stores.pages.table.find? fun page => page.name = request.name with
      | none =>
          dsimp only
          match inserted : site.stores.pages.insert
              (site.newPage request (site.normal request.path)) with
          | .error error => exact Or.inl rfl
          | .ok (stored, pages) => exact Or.inr ⟨pages, _, [site.normal request.path],
              .added inserted (List.mem_singleton_self _), rfl⟩
      | some page =>
          cases updated : site.stores.pages.update (site.editedPage page request.content) with
          | error error => exact Or.inl (by simp only [updated])
          | ok pages =>
              have known := List.mem_of_find?_eq_some found
              have sameId : (site.editedPage page request.content).id = page.id := rfl
              refine Or.inr ⟨pages, site.log, (if page.path ≠ site.normal request.path then
                [page.path] else []) ++ [site.normal request.path],
                .replaced known sameId rfl updated ?_, ?_⟩
              · by_cases other : page.path ≠ site.normal request.path
                · simp [other]
                · simp [not_not.mp other]
              · simp only [updated]

theorem writePage_cases {site : Site} (calm : site.Calm) (request : PageRequest) :
    (writePage request site).2 = site ∨ ∃ pages log paths,
      PagesEdit site.stores.pages pages paths ∧
      (writePage request site).2 = (site.withPages pages log).signalAll paths := by
  rw [writePage_eq calm]
  rcases changePage_cases site request with same | ⟨pages, log, paths, edit, same⟩
  · rw [same]
    exact Or.inl rfl
  · rw [same]
    exact Or.inr ⟨pages, log, paths, edit, rfl⟩

theorem writeWidget_cases (site : Site) (request : WidgetRequest) : ∃ widgets,
    (writeWidget request site).2 =
      { site with stores := { site.stores with widgets := widgets } } := by
  have unchanged : ∃ widgets, site = { site with stores := { site.stores with widgets := widgets } } :=
    ⟨site.stores.widgets, rfl⟩
  unfold writeWidget
  cases request.blank? with
  | some field => exact unchanged
  | none =>
      simp only [SiteM.bind_apply, SiteM.get_apply]
      cases site.stores.widgets.table.find? fun widget => widget.name = request.name with
      | none =>
          dsimp only
          generalize site.stores.widgets.insert _ = inserted
          rcases inserted with error | ⟨stored, widgets⟩
          · exact unchanged
          · exact ⟨widgets, rfl⟩
      | some widget =>
          dsimp only
          generalize site.stores.widgets.update _ = updated
          rcases updated with error | widgets
          · exact unchanged
          · exact ⟨widgets, rfl⟩

namespace Site

variable {site : Site}

theorem renderView_cases (calm : site.Calm) (fuel : Nat) (name : String) (routing : View.Routing)
    (model : Value) : (LiveViews.renderView fuel name routing model site).2 = site ∨
      ∃ path, (LiveViews.renderView fuel name routing model site).2 =
        (LiveViews.renderPath fuel path model [] (Services.source .stored) site).2 := by
  rw [LiveViews.renderView, SiteM.bind_apply, findView_calm calm]
  rcases site.lookup name routing with error | (path | searched)
  · exact Or.inl rfl
  · refine Or.inr ⟨path, ?_⟩
    simp only [SiteM.bind_apply, Services.source]
    cases (LiveViews.renderPath fuel path model [] siteWidgets site).1 <;> rfl
  · exact Or.inl rfl

theorem Quiet.renderView (quiet : site.Quiet) (fuel : Nat) (name : String)
    (routing : View.Routing) (model : Value) :
    (LiveViews.renderView fuel name routing model site).2.Quiet ∧
      (LiveViews.renderView fuel name routing model site).2.fresh = site.fresh := by
  rcases renderView_cases quiet.calm fuel name routing model with same | ⟨path, same⟩
  · rw [same]
    exact ⟨quiet, rfl⟩
  · rw [same]
    exact quiet.renderPath fuel path model [] .stored

theorem Quiet.operate (quiet : site.Quiet) (operation : SiteOperation) :
    (site.operate operation).Quiet := by
  cases operation with
  | writePage request =>
      rcases writePage_cases quiet.calm request with same | ⟨pages, log, paths, _, same⟩
      · show (LiveViews.writePage request site).2.Quiet
        rwa [same]
      · have written : (site.withPages pages log).Quiet := ⟨quiet.calm, quiet.memory⟩
        show (LiveViews.writePage request site).2.Quiet
        rw [same]
        exact written.notified (notified_signalAll _ paths)
  | writeWidget request =>
      obtain ⟨widgets, same⟩ := writeWidget_cases site request
      show (LiveViews.writeWidget request site).2.Quiet
      rw [same]
      exact ⟨quiet.calm, quiet.memory⟩
  | signal path => exact quiet.notified (site.notified_signal path)
  | render fuel path model ambient services sink =>
      rw [operate_render]
      exact (quiet.renderPath fuel path model ambient services).1
  | renderView fuel name routing model => exact (quiet.renderView fuel name routing model).1
  | compile path => exact quiet.compiledView path
  | resolve path => exact quiet.notified (notified_resolve quiet.calm path)
  | fetch path =>
      show (LiveViews.fetch path site).2.Quiet
      rwa [fetch_calm quiet.calm]
  | lookFor path =>
      show (viewExists path site).2.Quiet
      rwa [viewExists_calm quiet.calm]
  | elapse | replaceFiles => exact ⟨quiet.calm, quiet.memory⟩

theorem Indexed.operate (quiet : site.Quiet) (indexed : site.Indexed) (operation : SiteOperation) :
    (site.operate operation).Indexed := by
  have unkept : ∀ {other : Site}, other.bus = site.bus → other.tracked = site.tracked →
      other.settings.extension = site.settings.extension → other.compiled = site.compiled →
      other.Indexed := by
    intro other bus tracked extension compiled
    refine indexed.of_same bus tracked extension fun key held => ?_
    unfold holds compiled? at *
    rwa [← compiled]
  cases operation with
  | writePage request =>
      rcases writePage_cases quiet.calm request with same | ⟨pages, log, paths, _, same⟩
      · show (LiveViews.writePage request site).2.Indexed
        rwa [same]
      · show (LiveViews.writePage request site).2.Indexed
        rw [same]
        exact (((Steady.of_quiet quiet indexed).withPages pages log).signalAll paths).1.indexed
  | writeWidget request =>
      obtain ⟨widgets, same⟩ := writeWidget_cases site request
      show (LiveViews.writeWidget request site).2.Indexed
      rw [same]
      exact unkept rfl rfl rfl rfl
  | signal path => exact indexed.signal path
  | render fuel path model ambient services sink =>
      rw [operate_render]
      exact indexed.renderPath quiet fuel path model ambient services
  | renderView fuel name routing model =>
      show (LiveViews.renderView fuel name routing model site).2.Indexed
      rcases renderView_cases quiet.calm fuel name routing model with same | ⟨path, same⟩
      · rwa [same]
      · rw [same]
        exact indexed.renderPath quiet fuel path model [] .stored
  | compile path => exact indexed.compiledView quiet.calm path
  | resolve path =>
      show (LiveViews.resolve path site).2.Indexed
      rw [resolve_eq quiet.calm indexed.wired]
      exact indexed.resolved path
  | fetch path =>
      show (LiveViews.fetch path site).2.Indexed
      rwa [fetch_calm quiet.calm]
  | lookFor path =>
      show (viewExists path site).2.Indexed
      rwa [viewExists_calm quiet.calm]
  | elapse | replaceFiles => exact unkept rfl rfl rfl rfl

theorem Steady.operate (steady : site.Steady) (operation : SiteOperation) :
    (site.operate operation).Steady :=
  .of_quiet (steady.quiet.operate operation) (steady.indexed.operate steady.quiet operation)

inductive Effect (site : Site) : Site → Prop where
  | same {after : Site} : after.fresh = site.fresh → Effect site after
  | pages {pages : Repository Page} {paths : List String} (log : List LogLine) :
      PagesEdit site.stores.pages pages paths →
      Effect site ((site.withPages pages log).signalAll paths)
  | widgets (widgets : Repository Widget) :
      Effect site { site with stores := { site.stores with widgets := widgets } }
  | time (now : Int) : Effect site { site with now := now }
  | files (tree : File.Tree) : Effect site { site with tree := tree }

def reads : SiteOperation → Bool
  | .writePage _ | .writeWidget _ | .elapse _ | .replaceFiles _ => false
  | _ => true

theorem Quiet.operate_reads (quiet : site.Quiet) {operation : SiteOperation}
    (reads : reads operation = true) : (site.operate operation).fresh = site.fresh := by
  cases operation with
  | writePage | writeWidget | elapse | replaceFiles => cases reads
  | signal path => exact (site.notified_signal path).fresh
  | render fuel path model ambient services sink =>
      rw [operate_render]
      exact (quiet.renderPath fuel path model ambient services).2
  | renderView fuel name routing model => exact (quiet.renderView fuel name routing model).2
  | compile path => exact (viewCompiled quiet.calm path).fresh
  | resolve path => exact (notified_resolve quiet.calm path).fresh
  | fetch path =>
      show (LiveViews.fetch path site).2.fresh = site.fresh
      rw [fetch_calm quiet.calm]
  | lookFor path =>
      show (viewExists path site).2.fresh = site.fresh
      rw [viewExists_calm quiet.calm]

theorem Quiet.operate_effect (quiet : site.Quiet) (operation : SiteOperation) :
    site.Effect (site.operate operation) := by
  cases operation with
  | writePage request =>
      show site.Effect (LiveViews.writePage request site).2
      rcases writePage_cases quiet.calm request with same | ⟨pages, log, paths, edit, same⟩
      · rw [same]
        exact .same rfl
      · rw [same]
        exact .pages log edit
  | writeWidget request =>
      obtain ⟨widgets, same⟩ := writeWidget_cases site request
      show site.Effect (LiveViews.writeWidget request site).2
      rw [same]
      exact .widgets widgets
  | elapse now => exact .time now
  | replaceFiles tree => exact .files tree
  | signal | render | renderView | compile | resolve | fetch | lookFor =>
      exact .same (quiet.operate_reads rfl)

def setup (site : Site) : View.Settings × Fallback :=
  (site.settings, site.fallback)

theorem setup_of_fresh {other : Site} (same : other.fresh = site.fresh) :
    other.setup = site.setup := by
  show other.fresh.setup = site.fresh.setup
  rw [same]

theorem Quiet.operate_setup (quiet : site.Quiet) (operation : SiteOperation) :
    (site.operate operation).setup = site.setup := by
  have effect := quiet.operate_effect operation
  generalize site.operate operation = after at effect ⊢
  cases effect with
  | same fresh => exact setup_of_fresh fresh
  | @pages pages paths log edit =>
      rw [setup_of_fresh ((site.withPages pages log).fresh_signalAll paths)]
      rfl
  | widgets => rfl
  | time => rfl
  | files => rfl

theorem Steady.operateAll (steady : site.Steady) (operations : List SiteOperation) :
    (site.operateAll operations).Steady := by
  induction operations generalizing site with
  | nil => exact steady
  | cons operation rest ih => exact ih (steady.operate operation)

theorem Steady.operateAll_setup (steady : site.Steady) (operations : List SiteOperation) :
    (site.operateAll operations).setup = site.setup := by
  induction operations generalizing site with
  | nil => rfl
  | cons operation rest ih =>
      exact (ih (steady.operate operation)).trans (steady.quiet.operate_setup operation)

theorem Steady.compiled?_signalAll (steady : site.Steady) {paths : List String} {key : String}
    {compiled : Compiled} (kept : (site.signalAll paths).compiled? key = some compiled) :
    site.compiled? key = some compiled ∧ site.normal key ∉ paths := by
  induction paths generalizing site with
  | nil => exact ⟨kept, by simp⟩
  | cons path rest ih =>
      obtain ⟨before, others⟩ := ih (steady.signal path) kept
      have sameNormal := normal_of_fresh (site.notified_signal path).fresh
      rw [steady.indexed.wired.compiled?_signal steady.indexed.covered] at before
      split at before
      · cases before
      next different =>
        rw [sameNormal] at others
        exact ⟨before, by simpa using ⟨different, others⟩⟩

/-- A key has a template if it is kept for it, or if it compiles to it now. -/
def Yields (site : Site) (key : String) (template : Template) : Prop :=
  (∃ compiled, site.compiled? key = some compiled ∧ compiled.template = template) ∨
    site.template key = .ok template

theorem yields_of_kept {key : String} {compiled : Compiled}
    (kept : site.compiled? key = some compiled) : site.Yields key compiled.template :=
  Or.inl ⟨compiled, kept, rfl⟩

theorem Steady.yields_compiledView (steady : site.Steady) {path key : String} {compiled : Compiled}
    (kept : (LiveViews.compiledView path site).2.compiled? key = some compiled) :
    site.Yields key compiled.template := by
  obtain ⟨_, _, same⟩ := resolved_same site path
  rw [compiledView_eq steady.calm steady.indexed.wired] at kept
  cases known : site.compiled? path with
  | some old =>
      simp only [known] at kept
      exact yields_of_kept kept
  | none =>
      cases compiles : site.template path with
      | error error =>
          simp only [known, compiles, same] at kept
          exact yields_of_kept kept
      | ok template =>
          simp only [known, compiles, compiled?_keeping] at kept
          split at kept
          next here =>
            cases kept
            exact Or.inr (here ▸ compiles)
          next => exact yields_of_kept kept

theorem Steady.yields_renderPath (steady : site.Steady) {fuel : Nat} {path : String} {model : Value}
    {ambient : Members} {services : Services} {key : String} {compiled : Compiled}
    (kept : (LiveViews.renderPath fuel path model ambient services.source site).2.compiled? key =
      some compiled) : site.Yields key compiled.template := by
  rcases steady.quiet.renderPath_cases fuel path model ambient services with rendered |
    ⟨entry, memory, world, echoes, _, rendered⟩
  · rw [rendered] at kept
    exact steady.yields_compiledView kept
  · rw [rendered, compiled?_remember, echoes] at kept
    obtain ⟨old, known, rfl⟩ := Option.map_eq_some_iff.mp kept
    have before := steady.yields_compiledView known
    split <;> exact before

/-- Whatever is done, what is kept afterwards was there before. -/
theorem Steady.yields_operate (steady : site.Steady) {operation : SiteOperation} {key : String}
    {compiled : Compiled} (kept : (site.operate operation).compiled? key = some compiled) :
    site.Yields key compiled.template := by
  cases operation with
  | writePage request =>
      rcases writePage_cases steady.calm request with same | ⟨pages, log, paths, _, same⟩
      · rw [Site.operate, same] at kept
        exact yields_of_kept kept
      · rw [Site.operate, same] at kept
        have before := ((steady.withPages pages log).compiled?_signalAll kept).1
        exact yields_of_kept before
  | writeWidget request =>
      obtain ⟨widgets, same⟩ := writeWidget_cases site request
      rw [Site.operate, same] at kept
      exact yields_of_kept kept
  | signal path =>
      have before : (site.signalAll [path]).compiled? key = some compiled := kept
      exact yields_of_kept (steady.compiled?_signalAll before).1
  | render =>
      rw [operate_render] at kept
      exact steady.yields_renderPath kept
  | renderView fuel name routing model =>
      rcases renderView_cases steady.calm fuel name routing model with same | ⟨path, same⟩
      · rw [Site.operate, same] at kept
        exact yields_of_kept kept
      · rw [Site.operate, same] at kept
        exact steady.yields_renderPath kept
  | compile => exact steady.yields_compiledView kept
  | resolve path =>
      obtain ⟨_, _, same⟩ := resolved_same site path
      rw [Site.operate, resolve_eq steady.calm steady.indexed.wired, same] at kept
      exact yields_of_kept kept
  | fetch =>
      rw [Site.operate, fetch_calm steady.calm] at kept
      exact yields_of_kept kept
  | lookFor =>
      rw [Site.operate, viewExists_calm steady.calm] at kept
      exact yields_of_kept kept
  | elapse | replaceFiles => exact yields_of_kept kept

end Site

end LiveViews
