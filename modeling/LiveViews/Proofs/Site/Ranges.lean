import LiveViews.Proofs.Render.Guard
import LiveViews.Proofs.Site.Isolation
import LiveViews.Proofs.Site.Operations

/-!
Literal ranges on a site. Views and widgets are checked for oversized ranges before they are compiled,
fragments are not: of all the templates that a render runs, only what a fragment is compiled to may
go over a range of more items than the limit (`only_fragments_exceed_limit`).
-/

namespace LiveViews

open LiveViews.Store LiveViews.Signal
open LiveViews.Liquid (Template Value Members)

def renderPathBy (nested : Nested Site) (path : String) (model : Value) (ambient : Members)
    (widgets : WidgetSource Site) : SiteM (Except RenderError String) := do
  match ← compiledView path with
  | .error error => return .error error
  | .ok compiled =>
    let site ← get
    let context := siteContext site model ambient widgets
    let rendered := renderTemplateBy nested context compiled.template compiled.memory none site
    set (remember path compiled rendered.memory rendered.world)
    return rendered.result

theorem renderPathBy_runTemplate (fuel : Nat) : renderPathBy (runTemplate fuel) = renderPath fuel :=
  rfl

def renderViewBy (nested : Nested Site) (name : String) (routing : View.Routing) (model : Value) :
    SiteM (Except ViewError String) := do
  match ← findView name routing with
  | .error error => return .error (.render error)
  | .ok (.notFound searched) => return .error (.notFound name searched)
  | .ok (.found path) =>
    match ← renderPathBy nested path model [] siteWidgets with
    | .ok text => return .ok text
    | .error error => return .error (.render error)

theorem renderViewBy_runTemplate (fuel : Nat) : renderViewBy (runTemplate fuel) = renderView fuel :=
  rfl

namespace Site

variable {site : Site}

theorem bounded_of_template {key : String} {template : Template}
    (compiles : site.template key = .ok template) :
    template.body.bounded site.settings.maxRange = true := by
  unfold Site.template at compiles
  split at compiles
  · cases compiles
  · cases compiles
  next source _ =>
    unfold Source.template at compiles
    split at compiles
    · cases compiles
    · split at compiles
      next parsed =>
        cases compiles
        exact bounded_of_parseView parsed
      · cases compiles
      · cases compiles

structure Checked (site : Site) : Prop where
  steady : site.Steady
  kept : ∀ key compiled, site.compiled? key = some compiled →
    compiled.template.body.bounded site.settings.maxRange = true

theorem Checked.of_yields (checked : site.Checked) {key : String} {template : Template}
    (yields : site.Yields key template) : template.body.bounded site.settings.maxRange = true := by
  rcases yields with ⟨compiled, kept, rfl⟩ | compiles
  · exact checked.kept key compiled kept
  · exact bounded_of_template compiles

theorem Checked.operate (checked : site.Checked) (operation : SiteOperation) :
    (site.operate operation).Checked := by
  have settings : (site.operate operation).settings = site.settings :=
    congrArg Prod.fst (checked.steady.quiet.operate_setup operation)
  refine ⟨checked.steady.operate operation, fun key compiled kept => ?_⟩
  rw [settings]
  exact checked.of_yields (checked.steady.yields_operate kept)

theorem Opened.checked (opened : site.Opened) : site.Checked := by
  refine ⟨opened.steady, fun key compiled kept => ?_⟩
  rw [opened.compiled?] at kept
  cases kept

theorem Checked.operateAll (checked : site.Checked) (operations : List SiteOperation) :
    (site.operateAll operations).Checked := by
  induction operations generalizing site with
  | nil => exact checked
  | cons operation rest ih => exact ih (checked.operate operation)

theorem Steady.yields_answer (steady : site.Steady) {path : String} {compiled : Compiled}
    (answer : (LiveViews.compiledView path site).1 = .ok compiled) :
    site.Yields path compiled.template := by
  rw [compiledView_eq steady.calm steady.indexed.wired] at answer
  cases known : site.compiled? path with
  | some kept =>
      simp only [known, Except.ok.injEq] at answer
      exact yields_of_kept (answer ▸ known)
  | none =>
      cases compiles : site.template path with
      | error error => simp [known, compiles] at answer
      | ok template =>
          simp only [known, compiles, Except.ok.injEq] at answer
          subst answer
          exact Or.inr compiles

/-- A template with an oversized range that no fragment is compiled to. -/
def Barred (site : Site) (template : Template) : Prop :=
  template.body.bounded site.settings.maxRange = false ∧
    ∀ name text, site.fragment name = some text → Liquid.Template.parse text ≠ .ok template

theorem barred_of_checked (checked : ∀ name text, site.fragment name = some text →
    oversizedRange? site.settings.maxRange text.toList = none) {template : Template}
    (oversized : template.body.bounded site.settings.maxRange = false) : site.Barred template := by
  refine ⟨oversized, fun name text found parsed => ?_⟩
  rw [bounded_of_parse (checked name text found) parsed] at oversized
  cases oversized

theorem text_pageSource (page : Page) : String.fromUTF8? (pageSource page).bytes = some page.body :=
  dif_pos page.body.isValidUTF8

theorem page_of_fragment (nowhere : site.fallback = .nowhere) {name text : String}
    (found : site.fragment name = some text) :
    ∃ page ∈ site.stores.pages.table.rows, page.body = text := by
  obtain ⟨path, source, read, decoded⟩ := source_of_fragment found
  unfold Site.source at read
  cases known : site.page? (site.normal path) with
  | none =>
      simp only [known, fileSource, nowhere] at read
      cases read
  | some page =>
      rw [known] at read
      cases read
      rw [text_pageSource] at decoded
      exact ⟨page, List.mem_of_find?_eq_some known, Option.some.inj decoded⟩

variable {refuses : Template → Bool}

theorem siteContext_fetches {base : Site} (calm : base.Calm) (same : base.fresh = site.fresh)
    (barred : ∀ template, refuses template = true → site.Barred template) (model : Value)
    (ambient : Members) (widgets : WidgetSource Site) :
    (siteContext base model ambient widgets).Fetches (Paired base base)
      fun template => refuses template = false := by
  rintro _ ⟨⟩ name first _ ⟨echoes, _⟩ text template found parsed
  have looked := (lookupFragment_calm (echoes.calm calm) name).1
  rw [found, fragment_congr (echoes.fresh.trans same)] at looked
  rw [← Bool.not_eq_true]
  exact fun refused => (barred template refused).2 name text looked.symm parsed

/-- Whatever is put in the place of barred templates, a render does not come to it. -/
theorem Checked.renderPathBy_guarded (checked : site.Checked)
    (barred : ∀ template, refuses template = true → site.Barred template) (alarm : Nested Site)
    (fuel : Nat) (path : String) (model : Value) (ambient : Members) (services : Services) :
    (renderPathBy (runGuarded refuses alarm fuel) path model ambient services.source site).1 =
      (renderPath fuel path model ambient services.source site).1 := by
  have steady := checked.steady
  obtain ⟨same, calm, _, _⟩ := viewCompiled steady.calm path
  have settings := settings_of_fresh same
  have runs : ∀ {template : Template}, template.body.bounded site.settings.maxRange = true →
      refuses template = false := by
    intro template bounded
    rw [← Bool.not_eq_true]
    intro refused
    rw [(barred template refused).1] at bounded
    cases bounded
  rw [← renderPathBy_runTemplate, renderPathBy, renderPathBy, SiteM.bind_apply, SiteM.bind_apply]
  cases answer : (LiveViews.compiledView path site).1 with
  | error error => rfl
  | ok compiled =>
      have holds := steady.quiet.compiled_memory answer
      rw [← settings] at holds
      have agree : Agree _ _ (none, none) _ _ := agree_runGuarded alarm
        (fun content template parsed => runs (settings ▸ bounded_of_parseView parsed)) fuel
        (siteContext_respects calm calm rfl model ambient services)
        (siteContext_fetches calm same barred model ambient services.source)
        (runs (checked.of_yields (steady.yields_answer answer)))
      have paired : Paired (LiveViews.compiledView path site).2 (LiveViews.compiledView path site).2
        (LiveViews.compiledView path site).2 (LiveViews.compiledView path site).2 := ⟨rfl, rfl⟩
      exact (renderTemplateBy_agree agree holds holds paired).1

theorem renderViewBy_eq (calm : site.Calm) (nested : Nested Site) (name : String)
    (routing : View.Routing) (model : Value) : (renderViewBy nested name routing model site).1 =
      match site.lookup name routing with
      | .error error => .error (.render error)
      | .ok (.notFound searched) => .error (.notFound name searched)
      | .ok (.found path) => (renderPathBy nested path model [] siteWidgets site).1.mapError .render := by
  rw [renderViewBy, SiteM.bind_apply, findView_calm calm]
  rcases site.lookup name routing with error | (path | searched)
  · rfl
  · simp only [SiteM.bind_apply]
    cases (renderPathBy nested path model [] siteWidgets site).1 <;> rfl
  · rfl

theorem Checked.renderViewBy_guarded (checked : site.Checked)
    (barred : ∀ template, refuses template = true → site.Barred template) (alarm : Nested Site)
    (fuel : Nat) (name : String) (routing : View.Routing) (model : Value) :
    (renderViewBy (runGuarded refuses alarm fuel) name routing model site).1 =
      (renderView fuel name routing model site).1 := by
  have calm := checked.steady.calm
  rw [← renderViewBy_runTemplate, renderViewBy_eq calm, renderViewBy_eq calm]
  rcases site.lookup name routing with error | (path | searched)
  · rfl
  · have same := checked.renderPathBy_guarded barred alarm fuel path model [] .stored
    exact congrArg (Except.mapError ViewError.render) same
  · rfl

def text? (site : Site) (path : String) : Option String :=
  match site.source path with
  | .ok (some source) => String.fromUTF8? source.bytes
  | _ => none

theorem renderPath_oversized (steady : site.Steady) {path text : String}
    (unkept : site.compiled? path = none) (found : site.text? path = some text)
    {bounds : Int × Int} (oversized : oversizedRange? site.settings.maxRange text.toList = some bounds)
    (fuel : Nat) (model : Value) (ambient : Members) (widgets : WidgetSource Site) :
    (renderPath fuel path model ambient widgets site).1 =
      .error (oversizedError site.settings.maxRange bounds) := by
  have refused : site.template path = .error (oversizedError site.settings.maxRange bounds) := by
    unfold text? at found
    split at found
    next source known =>
      unfold Site.template Source.template parseView
      simp only [known, found, oversized]
      rfl
    next => cases found
  have answer := congrArg Prod.fst (compiledView_eq steady.calm steady.indexed.wired path)
  rw [unkept, refused] at answer
  rw [renderPath, SiteM.bind_apply, answer]
  rfl

end Site

theorem Parent.runDirective_oversized {parent : Parent} (sound : parent.Sound) {site : Site}
    (same : parent.state.world.fresh = site.fresh) {depth : Nat}
    (shallow : depth < site.settings.maxWidgetDepth) {name content : String}
    (found : activeContent site.stores.widgets.table.rows name = some content) {bounds : Int × Int}
    (oversized : oversizedRange? site.settings.maxRange content.toList = some bounds)
    (fuel index : Nat) (entity : String) :
    let error := oversizedError site.settings.maxRange bounds
    parent.runDirective fuel depth .stored index name entity =
      (.error (.failed (.complaint error.message)),
        { parent.state with cause := parent.state.cause.or (some error) }) := by
  have settings := Site.settings_of_fresh same
  have stores : parent.state.world.stores = site.stores := by
    show parent.state.world.fresh.stores = site.fresh.stores
    rw [same]
  have holds := sound.holds
  rw [← settings] at shallow oversized ⊢
  rw [← stores] at found
  have service : (parent.context depth .stored).frame = some
      { siteFrame parent.state.world.settings siteWidgets with depth := depth } := rfl
  exact runWidget_oversized (runTemplate fuel) service shallow rfl index
    (by rw [← found]) holds oversized

/-- Whatever a site was used for, and whatever is put in the place of templates that no fragment is
compiled to and that go over too large a range: each render answers the same, and so does not run
them. A view or a widget whose text has such a range fails instead. -/
theorem only_fragments_exceed_limit (start : Site) (opened : start.Opened)
    (operations : List SiteOperation) :
    let site := start.operateAll operations
    let limit := site.settings.maxRange
    (∀ refuses : Template → Bool, (∀ template, refuses template = true → site.Barred template) →
      ∀ (alarm : Nested Site) (fuel : Nat),
        (∀ path model ambient (services : Services),
          (renderPathBy (runGuarded refuses alarm fuel) path model ambient services.source site).1 =
            (renderPath fuel path model ambient services.source site).1) ∧
        ∀ name routing model,
          (renderViewBy (runGuarded refuses alarm fuel) name routing model site).1 =
            (renderView fuel name routing model site).1) ∧
    (∀ path text bounds, site.compiled? path = none → site.text? path = some text →
      oversizedRange? limit text.toList = some bounds → ∀ fuel model ambient (services : Services),
        (renderPath fuel path model ambient services.source site).1 =
          .error (oversizedError limit bounds)) ∧
    ∀ parent : Parent, parent.Sound → parent.state.world.fresh = site.fresh →
      ∀ depth name content bounds, depth < site.settings.maxWidgetDepth →
      activeContent site.stores.widgets.table.rows name = some content →
      oversizedRange? limit content.toList = some bounds → ∀ fuel index entity,
        parent.runDirective fuel depth .stored index name entity =
          (.error (.failed (.complaint (oversizedError limit bounds).message)),
            { parent.state with
              cause := parent.state.cause.or (some (oversizedError limit bounds)) }) := by
  intro site limit
  have checked := opened.checked.operateAll operations
  refine ⟨?_, ?_, ?_⟩
  · intro refuses barred alarm fuel
    exact ⟨checked.renderPathBy_guarded barred alarm fuel,
      checked.renderViewBy_guarded barred alarm fuel⟩
  · intro path text bounds unkept found oversized fuel model ambient services
    exact Site.renderPath_oversized checked.steady unkept found oversized fuel model ambient _
  · intro parent sound same depth name content bounds shallow found oversized fuel index entity
    exact Parent.runDirective_oversized sound same shallow found oversized fuel index entity

def wideText : String :=
  "\x7b% for i in (1..5) %\x7dx\x7b% endfor %\x7d"

def narrowSite : Site where
  settings := { maxRange := 2 }

def wideWidget : List SiteOperation :=
  [.writeWidget ⟨"wide", wideText⟩, .writePage ⟨"home", "\x7b% render wide:x %\x7d", "/home"⟩]

def widePages : List SiteOperation :=
  [.writePage ⟨"part", wideText, "/Partials/p.liquid"⟩,
    .writePage ⟨"home", "\x7b% include 'p' %\x7d", "/home"⟩]

def wideParent : Parent where
  layers := []
  globals := []
  state := { world := narrowSite.operateAll wideWidget, memory := .empty, cause := none }

theorem only_fragments_exceed_limit_narrowSite : narrowSite.Opened ∧
    (renderPathBy (runGuarded (fun template => !template.body.bounded 2) (fun _ _ => throw .crashed) 8)
      "/home" .nil [] siteWidgets (narrowSite.operateAll wideWidget)).1 =
        .error (oversizedError 2 (1, 5)) ∧
    (renderPath 8 "/Partials/p.liquid" .nil [] siteWidgets (narrowSite.operateAll widePages)).1 =
      .error (oversizedError 2 (1, 5)) ∧
    (wideParent.runDirective 8 0 .stored 0 "wide" "x").2.cause =
      some (oversizedError 2 (1, 5)) := by
  have opened : narrowSite.Opened := ⟨rfl, rfl, rfl, rfl⟩
  obtain ⟨guarded, _, failed⟩ := only_fragments_exceed_limit narrowSite opened wideWidget
  obtain ⟨_, refused, _⟩ := only_fragments_exceed_limit narrowSite opened widePages
  have kept := opened.steady.operateAll_setup wideWidget
  have limit : (narrowSite.operateAll wideWidget).settings.maxRange = 2 :=
    congrArg (fun setup => setup.1.maxRange) kept
  have barred : ∀ template : Template, (!template.body.bounded 2) = true →
      (narrowSite.operateAll wideWidget).Barred template := by
    intro template refuses
    refine Site.barred_of_checked (fun name text found => ?_) ?_
    · obtain ⟨page, member, rfl⟩ := Site.page_of_fragment (congrArg Prod.snd kept) found
      have pages : ∀ page ∈ (narrowSite.operateAll wideWidget).stores.pages.table.rows,
          oversizedRange? 2 page.body.toList = none := by decide +kernel
      rw [limit]
      exact pages page member
    · rw [limit]
      simpa using refuses
  have same := (guarded _ barred (fun _ _ => throw .crashed) 8).1 "/home" .nil [] .stored
  have answer : (renderPath 8 "/home" .nil [] siteWidgets (narrowSite.operateAll wideWidget)).1 =
      .error (oversizedError 2 (1, 5)) := by decide +kernel
  have narrow : (narrowSite.operateAll widePages).settings.maxRange = 2 :=
    congrArg (fun setup => setup.1.maxRange) (opened.steady.operateAll_setup widePages)
  have view := refused "/Partials/p.liquid" wideText (1, 5) (by decide +kernel) (by decide +kernel)
    (by decide +kernel) 8 .nil [] .stored
  rw [narrow] at view
  have sound : wideParent.Sound := ⟨(opened.steady.operateAll wideWidget).calm, trivial⟩
  have widget := failed wideParent sound rfl 0 "wide" wideText (1, 5) (by decide +kernel)
    (by decide +kernel) (by decide +kernel) 8 0 "x"
  rw [limit] at widget
  refine ⟨opened, same.trans answer, view, ?_⟩
  rw [widget]
  rfl

/-- As a view the text is refused, as a fragment it goes over its whole range. -/
theorem fragment_exceeds_limit :
    let site := narrowSite.operateAll widePages
    site.fragment "p" = some wideText ∧
      oversizedRange? site.settings.maxRange wideText.toList = some (1, 5) ∧
      (renderPath 8 "/Partials/p.liquid" .nil [] siteWidgets site).1 =
        .error (oversizedError 2 (1, 5)) ∧
      (renderPath 8 "/home" .nil [] siteWidgets site).1 = .ok "xxxxx" ∧
      (renderPathBy (runGuarded (fun template => !template.body.bounded 2)
        (fun _ _ => throw .crashed) 8) "/home" .nil [] siteWidgets site).1 = .error .task := by
  decide +kernel

end LiveViews
