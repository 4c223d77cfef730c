import LiveViews.Proofs.Site.Eviction
import LiveViews.Proofs.Store.Tables
import Mathlib.Data.List.Induction

/-!
Coherence: what is kept is what a fresh read would compile to. Pages are edited through the site and
files do not change, so that each change of a source is signalled; renders then answer as they would
on a site that keeps nothing (`renders_as_fresh`).

Ids of pages are words of 32 bits. A page whose id comes round again would take the place of another
one unsignalled, so the run is one that leaves ids over.
-/

namespace LiveViews

open LiveViews.Store LiveViews.Signal
open LiveViews.Liquid (Template Value Members)

theorem withId_path (page : Page) (id : Int) : (Row.withId page id).path = page.path := rfl

namespace PagesEdit

variable {pages later : Repository Page} {paths : List String}

theorem sound (edit : PagesEdit pages later paths) (sound : pages.table.Sound) :
    later.table.Sound := by
  cases edit with
  | added inserted _ => exact sound.insert (Repository.insert_ok inserted).1
  | replaced _ _ _ updated _ => exact sound.update (Repository.update_ok updated).1

theorem sequence_le (edit : PagesEdit pages later paths) :
    pages.table.sequence ≤ later.table.sequence := by
  cases edit with
  | added inserted _ =>
      rw [(Table.insert_ok (Repository.insert_ok inserted).1).2.2]
      exact Nat.le_succ _
  | replaced _ _ _ updated _ =>
      exact Nat.le_of_eq (by rw [(Table.update_ok (Repository.update_ok updated).1).2.2])

theorem find?_eq (edit : PagesEdit pages later paths) (sound : pages.table.Sound)
    (left : later.table.sequence < idCount) {path : String} (other : path ∉ paths) :
    (later.table.find? fun page => page.path = path && page.status = .active) =
      pages.table.find? fun page => page.path = path && page.status = .active := by
  have unwanted : ∀ page : Page, page.path ∈ paths →
      (decide (page.path = path) && decide (page.status = .active)) = false := by
    intro page member
    have different : page.path ≠ path := fun same => other (same ▸ member)
    simp [different]
  cases edit with
  | @added row stored inserted here =>
      have table := (Repository.insert_ok inserted).1
      obtain ⟨numbered, _, same⟩ := Table.insert_ok table
      have samePath : stored.path = row.path := by
        rw [numbered]
        exact withId_path row _
      have fresh := sound.fresh table left
      rw [same]
      exact find?_putRow (unwanted stored (samePath ▸ here)) fun page member sameId =>
        absurd sameId (fresh page member)
  | @replaced page row member sameId samePath updated here =>
      obtain ⟨_, _, same⟩ := Table.update_ok (Repository.update_ok updated).1
      rw [same]
      refine find?_putRow (unwanted row (samePath ▸ here)) fun each known equalId => ?_
      rw [sound.ordered.eq_of_id known member (equalId.trans sameId)]
      exact unwanted page here

end PagesEdit

namespace Site

variable {site : Site}

/-- A steady site on which every kept template is the one its source compiles to now. -/
structure Coherent (site : Site) : Prop where
  steady : site.Steady
  current : ∀ key compiled, site.compiled? key = some compiled →
    site.template key = .ok compiled.template
  pages : site.stores.pages.table.Sound

theorem source_withPages {pages : Repository Page} {paths : List String}
    (edit : PagesEdit site.stores.pages pages paths) (sound : site.stores.pages.table.Sound)
    (left : pages.table.sequence < idCount) (log : List LogLine) {key : String}
    (other : site.normal key ∉ paths) :
    (site.withPages pages log).source key = site.source key := by
  have samePage : (site.withPages pages log).page? (site.normal key) =
      site.page? (site.normal key) := edit.find?_eq sound left other
  unfold source
  rw [← samePage]
  rfl

theorem template_withPages {pages : Repository Page} {paths : List String}
    (edit : PagesEdit site.stores.pages pages paths) (sound : site.stores.pages.table.Sound)
    (left : pages.table.sequence < idCount) (log : List LogLine) {key : String}
    (other : site.normal key ∉ paths) :
    (site.withPages pages log).template key = site.template key := by
  unfold template
  rw [source_withPages edit sound left log other]
  rfl

theorem pages_of_fresh {other : Site} (same : other.fresh = site.fresh)
    (sound : site.stores.pages.table.Sound) : other.stores.pages.table.Sound := by
  have sameStores : other.fresh.stores = site.fresh.stores := by rw [same]
  have known : site.fresh.stores.pages.table.Sound := sound
  rwa [← sameStores] at known

theorem Coherent.of_fresh {other : Site} (coherent : site.Coherent) (steady : other.Steady)
    (same : other.fresh = site.fresh) (kept : ∀ key compiled, other.compiled? key = some compiled →
      site.template key = .ok compiled.template) : other.Coherent := by
  refine ⟨steady, ?_, pages_of_fresh same coherent.pages⟩
  intro key compiled found
  rw [template_fresh, same]
  exact kept key compiled found

theorem Coherent.template_of_yields (coherent : site.Coherent) {key : String} {template : Template}
    (yields : site.Yields key template) : site.template key = .ok template := by
  rcases yields with ⟨compiled, kept, rfl⟩ | compiles
  · exact coherent.current key compiled kept
  · exact compiles

theorem Coherent.read (coherent : site.Coherent) {operation : SiteOperation}
    (reads : reads operation = true) : (site.operate operation).Coherent :=
  coherent.of_fresh (coherent.steady.operate operation) (coherent.steady.quiet.operate_reads reads)
    fun _ _ kept => coherent.template_of_yields (coherent.steady.yields_operate kept)

theorem Coherent.write (coherent : site.Coherent) {pages : Repository Page} {paths : List String}
    (edit : PagesEdit site.stores.pages pages paths) (left : pages.table.sequence < idCount)
    (log : List LogLine) : ((site.withPages pages log).signalAll paths).Coherent := by
  have steady := coherent.steady.withPages pages log
  obtain ⟨steadyAfter, same⟩ := steady.signalAll paths
  refine ⟨steadyAfter, ?_, ?_⟩
  · intro key compiled found
    obtain ⟨kept, other⟩ := steady.compiled?_signalAll found
    rw [template_fresh, same, ← template_fresh, template_withPages edit coherent.pages left log other]
    exact coherent.current key compiled kept
  · exact pages_of_fresh same (edit.sound coherent.pages)

theorem Steady.compiledView_template (steady : site.Steady) {path : String}
    (current : ∀ compiled, site.compiled? path = some compiled →
      site.template path = .ok compiled.template) :
    (LiveViews.compiledView path site).1.map Compiled.template = site.template path := by
  rw [compiledView_eq steady.calm steady.indexed.wired]
  cases known : site.compiled? path with
  | some compiled => exact (current compiled known).symm
  | none => cases site.template path <;> rfl

def pageCount (site : Site) : Nat :=
  site.stores.pages.table.sequence

theorem pageCount_of_fresh {first second : Site} (same : first.fresh = second.fresh) :
    first.pageCount = second.pageCount := by
  show first.fresh.pageCount = second.fresh.pageCount
  rw [same]

theorem pageCount_write (site : Site) (pages : Repository Page) (log : List LogLine)
    (paths : List String) :
    ((site.withPages pages log).signalAll paths).pageCount = pages.table.sequence :=
  pageCount_of_fresh ((site.withPages pages log).fresh_signalAll paths)

theorem pageCount_le_operate (steady : site.Steady) (operation : SiteOperation) :
    site.pageCount ≤ (site.operate operation).pageCount := by
  have effect := steady.quiet.operate_effect operation
  generalize site.operate operation = after at effect ⊢
  cases effect with
  | same fresh => exact Nat.le_of_eq (pageCount_of_fresh fresh.symm)
  | pages log edit =>
      rw [pageCount_write]
      exact edit.sequence_le
  | widgets => exact Nat.le_refl _
  | time => exact Nat.le_refl _
  | files => exact Nat.le_refl _

end Site

def SiteOperation.keepsFiles : SiteOperation → Bool
  | .replaceFiles _ => false
  | .writePage _ | .writeWidget _ | .signal _ | .render _ _ _ _ _ _ | .renderView _ _ _ _
  | .compile _ | .resolve _ | .fetch _ | .lookFor _ | .elapse _ => true

namespace Site

variable {site : Site}

theorem Coherent.operate (coherent : site.Coherent) {operation : SiteOperation}
    (files : operation.keepsFiles = true) (left : (site.operate operation).pageCount < idCount) :
    (site.operate operation).Coherent := by
  have steady := coherent.steady
  have steadyAfter := steady.operate operation
  cases operation with
  | writePage request =>
      rcases writePage_cases steady.calm request with same | ⟨pages, log, paths, edit, same⟩
      · show (LiveViews.writePage request site).2.Coherent
        rwa [same]
      · have count : pages.table.sequence < idCount := by
          rw [← pageCount_write site pages log paths, ← same]
          exact left
        show (LiveViews.writePage request site).2.Coherent
        rw [same]
        exact coherent.write edit count log
  | writeWidget request =>
      obtain ⟨widgets, same⟩ := writeWidget_cases site request
      show (LiveViews.writeWidget request site).2.Coherent
      have steadyNow : (LiveViews.writeWidget request site).2.Steady := steadyAfter
      rw [same] at steadyNow ⊢
      exact ⟨steadyNow, coherent.current, coherent.pages⟩
  | elapse now => exact ⟨steadyAfter, coherent.current, coherent.pages⟩
  | replaceFiles tree => cases files
  | signal | render | renderView | compile | resolve | fetch | lookFor => exact coherent.read rfl

theorem Opened.coherent (opened : site.Opened) (sound : site.stores.pages.table.Sound) :
    site.Coherent := by
  refine ⟨opened.steady, ?_, sound⟩
  intro key compiled found
  simp [opened.compiled?] at found

theorem Coherent.operateAll (coherent : site.Coherent) (operations : List SiteOperation)
    (files : ∀ operation ∈ operations, operation.keepsFiles = true)
    (left : (site.operateAll operations).pageCount < idCount) :
    (site.operateAll operations).Coherent := by
  -- From the end: ids that are left over after an operation were left over before it.
  induction operations using List.reverseRecOn with
  | nil => exact coherent
  | append_singleton earlier operation ih =>
      have last : site.operateAll (earlier ++ [operation]) =
          (site.operateAll earlier).operate operation := by
        rw [Site.operateAll, List.foldl_append]
        rfl
      rw [last] at left ⊢
      have before := pageCount_le_operate (coherent.steady.operateAll earlier) operation
      have earlierCoherent := ih
        (fun each member => files each (List.mem_append_left _ member)) (Nat.lt_of_le_of_lt before left)
      exact earlierCoherent.operate (files operation (by simp)) left

theorem fresh_opened (site : Site) : site.fresh.Opened :=
  ⟨rfl, rfl, rfl, rfl⟩

theorem firstView_fresh (site : Site) (paths : List String) :
    site.firstView paths = site.fresh.firstView paths := by
  induction paths with
  | nil => rfl
  | cons path rest ih =>
      rw [firstView, firstView, ih]
      rfl

/-- A view of which nothing outdated is kept is rendered as if nothing were kept at all. -/
theorem Steady.renderPath_fresh (steady : site.Steady) {path : String}
    (current : ∀ compiled, site.compiled? path = some compiled →
      site.template path = .ok compiled.template)
    (fuel : Nat) (model : Value) (ambient : Members) (services : Services) :
    (LiveViews.renderPath fuel path model ambient services.source site).1 =
      (LiveViews.renderPath fuel path model ambient services.source site.fresh).1 := by
  have cold : site.fresh.Steady := site.fresh_opened.steady
  have keptTemplate := steady.compiledView_template current
  have nothing : ∀ compiled, site.fresh.compiled? path = some compiled →
      site.fresh.template path = .ok compiled.template := by
    intro compiled found
    rw [site.fresh_opened.compiled?] at found
    cases found
  have freshTemplate := cold.compiledView_template nothing
  rw [← template_fresh, ← keptTemplate] at freshTemplate
  obtain ⟨same, calm, _, _⟩ := viewCompiled steady.calm path
  obtain ⟨coldSame, coldCalm, _, _⟩ := viewCompiled cold.calm path
  rw [LiveViews.renderPath, SiteM.bind_apply, SiteM.bind_apply]
  cases kept : (LiveViews.compiledView path site).1 with
  | error error =>
      cases fresh : (LiveViews.compiledView path site.fresh).1 with
      | error other =>
          rw [kept, fresh] at freshTemplate
          cases freshTemplate
          rfl
      | ok compiled =>
          rw [kept, fresh] at freshTemplate
          cases freshTemplate
  | ok compiled =>
      cases fresh : (LiveViews.compiledView path site.fresh).1 with
      | error other =>
          rw [kept, fresh] at freshTemplate
          cases freshTemplate
      | ok other =>
          rw [kept, fresh] at freshTemplate
          have sameTemplate : other.template = compiled.template := Except.ok.inj freshTemplate
          have holds := steady.quiet.compiled_memory kept
          have otherHolds : other.memory.Holds site.settings.maxRange :=
            cold.quiet.compiled_memory fresh
          rw [← settings_of_fresh same] at holds otherHolds
          simp only [SiteM.bind_apply, SiteM.get_apply, SiteM.set_apply, SiteM.pure_apply]
          rw [sameTemplate]
          exact (renderTemplate_fresh calm coldCalm (same.trans coldSame.symm) fuel
            compiled.template model ambient services holds otherHolds).1

theorem Coherent.renderPath_fresh (coherent : site.Coherent) (fuel : Nat) (path : String)
    (model : Value) (ambient : Members) (services : Services) :
    (LiveViews.renderPath fuel path model ambient services.source site).1 =
      (LiveViews.renderPath fuel path model ambient services.source site.fresh).1 :=
  coherent.steady.renderPath_fresh (coherent.current path) fuel model ambient services

theorem Coherent.renderView_fresh (coherent : site.Coherent) (fuel : Nat) (name : String)
    (routing : View.Routing) (model : Value) :
    (LiveViews.renderView fuel name routing model site).1 =
      (LiveViews.renderView fuel name routing model site.fresh).1 := by
  have sameLookup : site.lookup name routing = site.fresh.lookup name routing := by
    unfold lookup
    rw [firstView_fresh]
    rfl
  have calm : site.fresh.Calm := rfl
  rw [LiveViews.renderView, SiteM.bind_apply, SiteM.bind_apply, findView_calm coherent.steady.calm,
    findView_calm calm, ← sameLookup]
  rcases site.lookup name routing with error | (path | searched)
  · rfl
  · have rendered := coherent.renderPath_fresh fuel path model [] .stored
    simp only [Services.source] at rendered
    simp only [SiteM.bind_apply, rendered]
    cases (LiveViews.renderPath fuel path model [] siteWidgets site.fresh).1 <;> rfl
  · rfl

end Site

/-- Whatever was done with a site, a render answers as it would if the site kept nothing: neither
compiled views nor what their widget directives remember. The files stay as they are. An id is a word of
32 bits, so that fewer pages have to be added than there are ids (`left`): the ids of more wrap around,
and a page takes the place of an older one. -/
theorem renders_as_fresh (start : Site) (opened : start.Opened)
    (sound : start.stores.pages.table.Sound) (operations : List SiteOperation)
    (files : ∀ operation ∈ operations, operation.keepsFiles = true)
    (left : (start.operateAll operations).pageCount < idCount) :
    let site := start.operateAll operations
    (∀ fuel path model ambient services sink,
      (renderInto fuel path model ambient (Services.source services) sink site).1 =
        (renderInto fuel path model ambient (Services.source services) sink site.fresh).1) ∧
    ∀ fuel name routing model, (renderView fuel name routing model site).1 =
      (renderView fuel name routing model site.fresh).1 := by
  intro site
  have coherent := (opened.coherent sound).operateAll operations files left
  refine ⟨?_, coherent.renderView_fresh⟩
  intro fuel path model ambient services sink
  rw [renderInto_eq, renderInto_eq, coherent.renderPath_fresh fuel path model ambient services]

theorem renders_as_fresh_visits : (Site.operateAll {} visits).pageCount < idCount ∧
    ∀ fuel name routing model,
      (renderView fuel name routing model (Site.operateAll {} visits)).1 =
        (renderView fuel name routing model (Site.operateAll {} visits).fresh).1 :=
  ⟨by decide +kernel, (renders_as_fresh {} ⟨rfl, rfl, rfl, rfl⟩ Table.sound_new visits (by decide)
    (by decide +kernel)).2⟩

example : (renderInto 8 "/home/index" .nil [] .noLocator {} (Site.operateAll {} visits)).1.2.written =
    "Bye" := by
  decide +kernel

end LiveViews
