import LiveViews.Program.Outcome
import LiveViews.Proofs.Site.Lookup
import Mathlib

/-!
Fragments that include fragments. Widgets may ask for each other in any way, but nothing counts the
fragments that are nested in one another. On a site whose fragments do not include themselves the stored
texts bound how deep templates nest, whatever a render runs; a view that comes to a fragment which begins
by including itself nests to every depth (`nesting_bounded`). What ends such a render is that its task
breaks down (`endless_on_loopSite`).
-/

namespace LiveViews

open LiveViews.Store
open LiveViews.Liquid (Template Value Operand Facts Variables)

theorem countP_lt_countP {α : Type} {first second : α → Bool} {items : List α} {item : α}
    (weaker : ∀ other, first other = true → second other = true) (member : item ∈ items)
    (new : first item = false) (held : second item = true) :
    items.countP first < items.countP second := by
  obtain ⟨before, after, rfl⟩ := List.append_of_mem member
  have front : before.countP first ≤ before.countP second :=
    List.countP_mono_left fun other _ => weaker other
  have back : after.countP first ≤ after.countP second :=
    List.countP_mono_left fun other _ => weaker other
  rw [List.countP_append, List.countP_append, List.countP_cons_of_pos held,
    List.countP_cons_of_neg (by simp [new])]
  omega

namespace File

def Entry.text? : Entry → Option String
  | .file bytes _ => String.fromUTF8? bytes
  | .directory => none

namespace Tree

theorem mem_of_follow {tree : Tree} {segments : List (List Char)} {place found : Place}
    {entry reached : Entry} (start : entry = .directory ∨ ∃ item ∈ tree.entries, item.2 = entry)
    (leads : tree.follow place entry segments = .ok (found, reached)) :
    reached = .directory ∨ ∃ item ∈ tree.entries, item.2 = reached := by
  induction segments generalizing place entry with
  | nil =>
      cases leads
      exact start
  | cons segment rest ih =>
      unfold follow at leads
      split at leads
      · cases leads
      · split at leads
        · exact ih (Or.inl rfl) leads
        · split at leads
          · exact ih (Or.inl rfl) leads
          · split at leads
            · cases leads
            · split at leads
              next next known =>
                refine ih ?_ leads
                unfold entry? at known
                split at known
                · exact Or.inl (Option.some.inj known).symm
                · obtain ⟨item, searched, same⟩ := Option.map_eq_some_iff.mp known
                  exact Or.inr ⟨item, List.mem_of_find?_eq_some searched, same⟩
              next => cases leads

theorem mem_of_read {tree : Tree} {path : List Char} {bytes : ByteArray} {modified : Int}
    (reads : tree.read path = .ok (bytes, modified)) :
    ∃ item ∈ tree.entries, item.2 = .file bytes modified := by
  unfold read at reads
  split at reads
  next found =>
    cases reads
    unfold find at found
    split at found
    · cases found
    · split at found
      · cases found
      · exact (mem_of_follow (Or.inl rfl) found).resolve_left nofun
  · cases reads
  · cases reads

end Tree

end File

namespace Site

variable {site : Site}

def texts (site : Site) : List String :=
  site.stores.pages.table.rows.map Page.body ++
    site.tree.entries.filterMap fun item => item.2.text?

/-- What the stored texts are compiled to where they are fragments. -/
def templates (site : Site) : List Template :=
  site.texts.filterMap fun text => (Template.parse text).toOption

theorem file_of_fileSource {path : String} {source : Source}
    (reads : fileSource site path = .ok (some source)) :
    ∃ item ∈ site.tree.entries, item.2.text? = String.fromUTF8? source.bytes := by
  unfold fileSource at reads
  split at reads
  · cases reads
  · split at reads
    · cases reads
    next file _ =>
      cases read : site.tree.read file with
      | error error => cases error <;> simp [read] at reads
      | ok held =>
          rw [read] at reads
          cases reads
          obtain ⟨item, member, same⟩ := File.Tree.mem_of_read read
          exact ⟨item, member, by rw [same, File.Entry.text?]⟩

theorem mem_texts_of_fragment {name text : String} (found : site.fragment name = some text) :
    text ∈ site.texts := by
  obtain ⟨path, source, read, decoded⟩ := source_of_fragment found
  unfold Site.source at read
  cases known : site.page? (site.normal path) with
  | some page =>
      rw [known] at read
      cases read
      rw [text_pageSource] at decoded
      cases decoded
      exact List.mem_append_left _ (List.mem_map_of_mem (List.mem_of_find?_eq_some known))
  | none =>
      rw [known] at read
      obtain ⟨item, member, same⟩ := file_of_fileSource read
      exact List.mem_append_right _ (List.mem_filterMap.mpr ⟨item, member, same.trans decoded⟩)

/-- In some scope the one template may include the other. -/
def Includes (site : Site) (outer inner : Template) : Prop :=
  ∃ operand ∈ outer.body.inserts, ∃ (scope : Variables) (value : Value) (text : String),
    operand.evaluate scope = .ok value ∧ site.fragment value.render = some text ∧
      Template.parse text = .ok inner

/-- No template comes to include itself, be it by others. -/
def Acyclic (site : Site) : Prop :=
  ∀ template, ¬Relation.TransGen site.Includes template template

theorem Includes.mem_templates {outer inner : Template} (includes : site.Includes outer inner) :
    inner ∈ site.templates := by
  obtain ⟨_, _, _, _, text, _, found, parsed⟩ := includes
  refine List.mem_filterMap.mpr ⟨text, mem_texts_of_fragment found, ?_⟩
  rw [parsed]
  rfl

def descends (site : Site) (rank : Template → Nat) (outer : Template) : Bool :=
  outer.body.inserts.all fun operand =>
    match operand with
    | .variable _ _ => false
    | .literal value =>
      (site.fragment value.render).all fun text =>
        match Template.parse text with
        | .ok inner => rank inner < rank outer
        | .error _ => true

theorem Includes.rank_lt {rank : Template → Nat} {outer inner : Template}
    (includes : site.Includes outer inner) (descends : site.descends rank outer = true) :
    rank inner < rank outer := by
  obtain ⟨operand, member, scope, value, text, evaluated, found, parsed⟩ := includes
  have lower := List.all_eq_true.mp descends operand member
  cases operand with
  | «variable» name indexes => cases lower
  | literal own =>
      obtain rfl : own = value := Except.ok.inj evaluated
      simpa [found, parsed] using lower

theorem acyclic_of_descends (rank : Template → Nat)
    (descends : ∀ template ∈ site.templates, site.descends rank template = true) : site.Acyclic := by
  intro template cycle
  have falls : ∀ inner, Relation.TransGen site.Includes template inner →
      inner ∈ site.templates ∧ (template ∈ site.templates → rank inner < rank template) := by
    intro inner chain
    induction chain with
    | single includes =>
        exact ⟨includes.mem_templates, fun stored => includes.rank_lt (descends _ stored)⟩
    | tail _ includes ih =>
        exact ⟨includes.mem_templates, fun stored =>
          (includes.rank_lt (descends _ ih.1)).trans (ih.2 stored)⟩
  obtain ⟨stored, lower⟩ := falls template cycle
  exact Nat.lt_irrefl _ (lower stored)

open Classical in
/-- How many of the stored texts a template may come to include. -/
noncomputable def reach (site : Site) (template : Template) : Nat :=
  site.templates.countP fun other => decide (Relation.TransGen site.Includes template other)

theorem reach_le (site : Site) (template : Template) : site.reach template ≤ site.texts.length :=
  List.countP_le_length.trans (List.length_filterMap_le _ _)

open Classical in
theorem Acyclic.reach_lt (acyclic : site.Acyclic) {outer inner : Template}
    (includes : site.Includes outer inner) : site.reach inner < site.reach outer := by
  refine countP_lt_countP (fun other further => ?_) includes.mem_templates ?_ ?_
  · exact decide_eq_true (.head includes (of_decide_eq_true further))
  · exact decide_eq_false (acyclic inner)
  · exact decide_eq_true (.single includes)

/-- How deep templates may nest: at each level of widgets a template may come to include all texts. -/
def nesting (site : Site) : Nat :=
  (site.settings.maxWidgetDepth + 1) * (site.texts.length + 1)

theorem Acyclic.falling (acyclic : site.Acyclic) {base : Site} (calm : base.Calm)
    (same : base.fresh = site.fresh) (deep : Prop) :
    Falling (base.terms deep) lookupFragment site.texts.length site.reach := by
  refine ⟨site.reach_le, ?_⟩
  intro outer inner operand scope value world text member evaluated echoes found parsed
  have looked := (lookupFragment_calm (echoes.calm calm) value.render).1
  rw [found, fragment_congr (echoes.fresh.trans same)] at looked
  exact acyclic.reach_lt ⟨operand, member, scope, value, text, evaluated, looked.symm, parsed⟩

theorem Acyclic.renderPathBy_over (acyclic : site.Acyclic) (calm : site.Calm)
    (deeper other : Nested Site) {levels more : Nat} (enough : site.nesting ≤ levels)
    (enoughMore : site.nesting ≤ more) (path : String) (model : Value) :
    renderPathBy (runTemplateOver other more) path model [] siteWidgets site =
        renderPathBy (runTemplateOver deeper levels) path model [] siteWidgets site ∧
      ∀ error, (renderPathBy (runTemplateOver deeper levels) path model [] siteWidgets site).1 =
          .error error →
        (LiveViews.compiledView path site).1 = .error error ∨
          RenderFailure DirectiveError False error := by
  refine renderPathBy_shadowed calm path model fun base baseCalm same template => ?_
  have settings : base.settings = site.settings := settings_of_fresh same
  have room : (siteContext base model [] siteWidgets).room = site.settings.maxWidgetDepth := by
    rw [← settings]
    rfl
  have reach := site.reach_le template
  have bound : (siteContext base model [] siteWidgets).room * (site.texts.length + 1) +
      site.reach template < site.nesting := by
    rw [room, nesting, Nat.succ_mul]
    omega
  exact shadows_runTemplateOver (acyclic.falling baseCalm same False) deeper other levels more
    (admits_siteContext baseCalm False model) rfl template (bound.trans_le enough)
    (bound.trans_le enoughMore)

theorem Acyclic.renderPathBy_ne_endless (acyclic : site.Acyclic) (calm : site.Calm)
    (deeper : Nested Site) {levels : Nat} (enough : site.nesting ≤ levels) (path : String)
    (model : Value) : (renderPathBy (runTemplateOver deeper levels) path model [] siteWidgets site).1 ≠
      .error .endless := by
  intro fails
  rcases (acyclic.renderPathBy_over calm deeper deeper enough enough path model).2 _ fails with
    compiling | rendering
  · rcases compiledView_error calm compiling with ⟨missing, _⟩ | own
    · cases missing
    · cases own
  · cases rendering with
    | cause directive => cases directive
    | endless deep => exact deep

theorem Acyclic.renderViewBy_over (acyclic : site.Acyclic) (calm : site.Calm)
    (deeper other : Nested Site) {levels more : Nat} (enough : site.nesting ≤ levels)
    (enoughMore : site.nesting ≤ more) (name : String) (routing : View.Routing) (model : Value) :
    (renderViewBy (runTemplateOver other more) name routing model site).1 =
      (renderViewBy (runTemplateOver deeper levels) name routing model site).1 := by
  rw [renderViewBy_eq calm, renderViewBy_eq calm]
  rcases site.lookup name routing with error | (path | searched)
  · rfl
  · have same := (acyclic.renderPathBy_over calm deeper other enough enoughMore path model).1
    exact congrArg (fun ran => Except.mapError ViewError.render (Prod.fst ran)) same
  · rfl

theorem Acyclic.renderViewBy_ne_endless (acyclic : site.Acyclic) (calm : site.Calm)
    (deeper : Nested Site) {levels : Nat} (enough : site.nesting ≤ levels) (name : String)
    (routing : View.Routing) (model : Value) :
    (renderViewBy (runTemplateOver deeper levels) name routing model site).1 ≠
      .error (.render .endless) := by
  rw [renderViewBy_eq calm]
  rcases lookup_cases site name routing with ⟨error, path, _, read, looked⟩ | ⟨lookup, looked, _, _⟩
  · rw [looked]
    rintro ⟨⟩
    cases source_error read
  · rw [looked]
    cases lookup with
    | notFound searched => exact nofun
    | found path =>
        have ends := acyclic.renderPathBy_ne_endless calm deeper enough path model
        show Except.mapError _ _ ≠ _
        generalize (renderPathBy _ path model [] siteWidgets site).1 = answer at ends ⊢
        cases answer with
        | ok text => exact nofun
        | error error =>
            rintro ⟨⟩
            exact ends rfl

theorem renderView_over (fuel : Nat) (name : String) (routing : View.Routing) (model : Value) :
    renderView fuel name routing model site =
      renderViewBy (runTemplateOver (fun _ _ => throw .endless) fuel) name routing model site := by
  rw [runTemplateOver_endless, renderViewBy_runTemplate]

/-- The one template includes the other before anything else, but for plain text. -/
def Opens (site : Site) (outer inner : Template) : Prop :=
  ∃ name text, outer.body.opening? = some name ∧ site.fragment name = some text ∧
    Template.parse text = .ok inner

/-- Templates that open one another lead from the template back to one of them. -/
def OpensCycle (site : Site) (template : Template) : Prop :=
  ∃ inner, Relation.ReflTransGen site.Opens template inner ∧ Relation.TransGen site.Opens inner inner

/-- The render of a view comes to the templates that are nested so deep: as they break down, so does
the render. -/
def NestsTo (site : Site) (name : String) (routing : View.Routing) (model : Value) (levels : Nat) :
    Prop :=
  ∀ stop, stop.isBreakdown = true →
    (renderViewBy (runTemplateOver (fun _ _ => throw stop) levels) name routing model site).1 =
      .error (.render (stopError none stop))

theorem opens_congr {other : Site} (same : site.fresh = other.fresh) : site.Opens = other.Opens := by
  funext outer inner
  simp only [Opens, fragment_congr same]

theorem Opens.includes {outer inner : Template} (opens : site.Opens outer inner) :
    site.Includes outer inner := by
  obtain ⟨name, text, opening, found, parsed⟩ := opens
  refine ⟨.literal (.text name), ?_, ⟨[], [], [], [], 0⟩, .text name, text, rfl, found, parsed⟩
  exact Liquid.Block.mem_inserts_of_opening opening

theorem OpensCycle.not_acyclic {template : Template} (cycle : site.OpensCycle template) :
    ¬site.Acyclic := by
  obtain ⟨inner, _, leads⟩ := cycle
  exact fun acyclic => acyclic inner (Relation.TransGen.mono (fun _ _ opens => opens.includes) _ _ leads)

theorem OpensCycle.next {template : Template} (cycle : site.OpensCycle template) :
    ∃ inner, site.Opens template inner ∧ site.OpensCycle inner := by
  obtain ⟨last, leads, round⟩ := cycle
  rcases leads.cases_head with rfl | ⟨inner, opens, further⟩
  · obtain ⟨inner, opens, back⟩ := Relation.TransGen.head'_iff.mp round
    exact ⟨inner, opens, template, back, round⟩
  · exact ⟨inner, opens, last, further, round⟩

theorem opens_itself {name text : String} (found : site.fragment name = some text)
    (again : (Template.parse text).toOption.bind (fun inner => inner.body.opening?) = some name) :
    ∃ inner, Template.parse text = .ok inner ∧ site.Opens inner inner := by
  cases parsed : Template.parse text with
  | error stop =>
      rw [parsed] at again
      cases again
  | ok inner =>
      rw [parsed] at again
      exact ⟨inner, rfl, name, text, again, found, parsed⟩

theorem OpensCycle.of_fragment {name text : String} (found : site.fragment name = some text)
    (again : (Template.parse text).toOption.bind (fun inner => inner.body.opening?) = some name)
    {template : Template} (opening : template.body.opening? = some name) :
    site.OpensCycle template := by
  obtain ⟨inner, parsed, opens⟩ := opens_itself found again
  exact ⟨inner, .single ⟨name, text, opening, found, parsed⟩, .single opens⟩

/-- Templates that open one another in a circle nest to every depth. -/
theorem OpensCycle.stops (calm : site.Calm) {stop : Liquid.Stop}
    (breaks : stop.isBreakdown = true) (levels : Nat) {template : Template}
    (cycle : site.OpensCycle template) (context : Context Site)
    (here : context.fragments = some lookupFragment) (state : RunState Site)
    (echoes : site.Echoes state.world) (idle : state.interrupt = none) :
    Stops stop (runTemplateOver (fun _ _ => throw stop) levels context template) state := by
  induction levels generalizing template context state with
  | zero => rfl
  | succ levels ih =>
      obtain ⟨inner, ⟨name, text, opening, found, parsed⟩, further⟩ := cycle.next
      obtain ⟨looked, after⟩ := lookupFragment_calm (echoes.calm calm) name
      rw [fragment_congr echoes.fresh, found] at looked
      refine stops_runBlock here looked parsed breaks ?_ opening rfl idle
      intro later world idle
      refine ih further (context.within []) here later ?_ idle
      rw [world]
      exact echoes.trans after

theorem OpensCycle.nestsTo (calm : site.Calm) {name path : String} {routing : View.Routing}
    {compiled : Compiled} (looked : site.lookup name routing = .ok (.found path))
    (compiles : (LiveViews.compiledView path site).1 = .ok compiled)
    (cycle : site.OpensCycle compiled.template) (model : Value) (levels : Nat) :
    site.NestsTo name routing model levels := by
  intro stop breaks
  have rendered : (renderPathBy (runTemplateOver (fun _ _ => throw stop) levels) path model []
      siteWidgets site).1 = .error (stopError none stop) := by
    have viewed := viewCompiled calm path
    rw [renderPathBy, SiteM.bind_apply]
    generalize LiveViews.compiledView path site = ran at viewed compiles
    obtain ⟨result, after⟩ := ran
    obtain rfl : result = _ := compiles
    dsimp only [SiteM.bind_apply, SiteM.get_apply, SiteM.set_apply, SiteM.pure_apply]
    apply Stops.renderTemplateBy breaks
    have cycle : after.OpensCycle compiled.template := by
      rwa [OpensCycle, opens_congr viewed.fresh]
    exact cycle.stops viewed.calm breaks levels _ rfl _ (Echoes.refl after) rfl
  rw [renderViewBy_eq calm, looked]
  show Except.mapError _ _ = _
  rw [rendered]
  rfl

end Site

/-- On a site that nobody else is writing to, with widgets that ask for each other in any way. If no
fragment comes to include itself, each render of a view has one answer, whatever is put in the place of
templates that are nested deeper than the stored texts and the levels of widgets allow: it does not come
to them, and it ends. But a view from which fragments that open one another lead in a circle comes to
templates at every depth. -/
theorem nesting_bounded (site : Site) (calm : site.Calm) :
    (site.Acyclic → ∀ name routing model, ∃ answer, answer ≠ .error (.render .endless) ∧
      (∀ fuel, site.nesting ≤ fuel → (renderView fuel name routing model site).1 = answer) ∧
      ∀ deeper levels, site.nesting ≤ levels →
        (renderViewBy (runTemplateOver deeper levels) name routing model site).1 = answer) ∧
    ∀ name routing path compiled, site.lookup name routing = .ok (.found path) →
      (compiledView path site).1 = .ok compiled → site.OpensCycle compiled.template →
        ∀ model levels, site.NestsTo name routing model levels := by
  refine ⟨fun acyclic name routing model => ?_, ?_⟩
  · refine ⟨(renderView site.nesting name routing model site).1, ?_, ?_, ?_⟩
    · rw [Site.renderView_over]
      exact acyclic.renderViewBy_ne_endless calm _ le_rfl name routing model
    · intro fuel enough
      rw [Site.renderView_over, Site.renderView_over]
      exact acyclic.renderViewBy_over calm _ _ le_rfl enough name routing model
    · intro deeper levels enough
      rw [Site.renderView_over]
      exact acyclic.renderViewBy_over calm _ deeper le_rfl enough name routing model
  · intro name routing path compiled looked compiles cycle model levels
    exact cycle.nestsTo calm looked compiles model levels

/-- A widget that includes a fragment that includes another one and asks for the widget. -/
def tangledSite : Site where
  settings := { maxWidgetDepth := 3 }
  stores := {
    pages := ⟨⟨[
      { id := 1, name := "home", path := "/home/index", body := "\x7b% render a:x %\x7d" },
      { id := 2, name := "p", path := "/partials/p",
        body := "\x7b% include 'q' %\x7d\x7b% render a:x %\x7d" },
      { id := 3, name := "q", path := "/partials/q", body := "." }], 3⟩, none⟩
    widgets := ⟨⟨[{ id := 1, name := "a", content := "\x7b% include 'p' %\x7d" }], 1⟩, none⟩ }

theorem nesting_bounded_tangledSite : tangledSite.Calm ∧ tangledSite.Acyclic ∧ ∀ deeper,
    (renderViewBy (runTemplateOver deeper 16) "Index" { controller := some "Home" } .nil
      tangledSite).1 = .error (.render (.recursionLimit "a" 3)) := by
  have calm : tangledSite.Calm := rfl
  have acyclic : tangledSite.Acyclic :=
    Site.acyclic_of_descends (fun template => template.body.inserts.length) (by decide +kernel)
  have looked : tangledSite.lookup "Index" { controller := some "Home" } =
      .ok (.found "/Home/Index.liquid") := by cbv
  have limited : (renderPath 16 "/Home/Index.liquid" .nil [] siteWidgets tangledSite).1 =
      .error (.recursionLimit "a" 3) := by decide +kernel
  obtain ⟨answer, _, reached, beyond⟩ :=
    (nesting_bounded tangledSite calm).1 acyclic "Index" { controller := some "Home" } .nil
  refine ⟨calm, acyclic, fun deeper => ?_⟩
  rw [beyond deeper 16 (by decide), ← reached 16 (by decide), Site.renderView_found calm looked, limited]
  rfl

theorem Program.runRender_ending (fuel : Nat) (view controller : String) (area : Option String)
    (site : Site) : (runRender fuel view controller area none site).ending =
      renderEnding view
        (renderView fuel view { controller := some controller, area := area } .nil site).1 := rfl

def loopSite : Site where
  fallback := .files "/v"
  tree := (({} : File.Tree).put [['v'], "Home".toList, "Index.liquid".toList]
    (.file "\x7b% include 'p' %\x7d".toUTF8 1)).put
    [['v'], "Shared".toList, "Partials".toList, "p.liquid".toList]
    (.file "\x7b% include 'p' %\x7d".toUTF8 1)

/-- However deep templates may nest, the view nests deeper, so that its answers have no common bound; and
however much a run can bear, the program complains of a task that failed. -/
theorem endless_on_loopSite : loopSite.Calm ∧ ¬loopSite.Acyclic ∧
    (∀ levels, loopSite.NestsTo "Index" { controller := some "Home" } .nil levels) ∧
    (¬∃ bound answer, ∀ deeper levels, bound ≤ levels →
      (renderViewBy (runTemplateOver deeper levels) "Index" { controller := some "Home" } .nil
        loopSite).1 = answer) ∧
    ∀ fuel, (Program.runRender fuel "Index" "Home" none none loopSite).ending =
      .failed ⟨"Failed to render `Index`", some "render task failed"⟩ := by
  have calm : loopSite.Calm := rfl
  have looked : loopSite.lookup "Index" { controller := some "Home" } =
      .ok (.found "/Home/Index.liquid") := by cbv
  have found : loopSite.fragment "p" = some "\x7b% include 'p' %\x7d" := by decide +kernel
  have again : (Template.parse "\x7b% include 'p' %\x7d").toOption.bind
      (fun inner => inner.body.opening?) = some "p" := by decide +kernel
  have begins : (compiledView "/Home/Index.liquid" loopSite).1.toOption.bind
      (fun compiled => compiled.template.body.opening?) = some "p" := by decide +kernel
  obtain ⟨compiled, compiles, opening⟩ : ∃ compiled,
      (compiledView "/Home/Index.liquid" loopSite).1 = .ok compiled ∧
        compiled.template.body.opening? = some "p" := by
    revert begins
    rcases (compiledView "/Home/Index.liquid" loopSite).1 with error | compiled
    · intro begins
      cases begins
    · exact fun begins => ⟨compiled, rfl, begins⟩
  have cycle : loopSite.OpensCycle compiled.template := .of_fragment found again opening
  have nests := cycle.nestsTo calm looked compiles .nil
  refine ⟨calm, cycle.not_acyclic, nests, ?_, ?_⟩
  · rintro ⟨bound, answer, same⟩
    have crashed := (nests bound .crashed rfl).symm.trans (same _ bound le_rfl)
    have endless := (nests bound .endless rfl).symm.trans (same _ bound le_rfl)
    cases crashed.trans endless.symm
  · intro fuel
    have fails : (renderView fuel "Index" { controller := some "Home" } .nil loopSite).1 =
        .error (.render .endless) := by
      rw [Site.renderView_over]
      exact nests fuel .endless rfl
    have complaint : "Failed to render `" ++ "Index" ++ "`" = "Failed to render `Index`" := by
      decide +kernel
    rw [Program.runRender_ending, fails, ← complaint]
    rfl

end LiveViews
