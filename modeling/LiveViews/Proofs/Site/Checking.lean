import LiveViews.Proofs.Site.Lookup
import LiveViews.Proofs.Site.Supply
import LiveViews.Site.Check

/-!
What the check says of a site, and what its renders come to. A page or a widget is reported with the
diagnostics that compiling it fails with, wherever that is done; and where nothing is reported, no view
that is a stored page fails to parse, whatever widgets it leads to (`check_predicts_rendering`).
-/

namespace LiveViews

open LiveViews.Store
open LiveViews.Liquid (Template Value Members)

def Checked.failure? (maxRange : Nat) (checked : Checked) : Option CheckFailure :=
  match parseView maxRange checked.text with
  | .error (.refused error) => some ⟨checked.subject, error.diagnostics⟩
  | _ => none

theorem Checked.failure?_eq_some {maxRange : Nat} {checked : Checked} {subject : String}
    {diagnostics : List Diagnostic} :
    checked.failure? maxRange = some ⟨subject, diagnostics⟩ ↔ checked.subject = subject ∧
      parseView maxRange checked.text = .error (.refused ⟨diagnostics⟩) := by
  unfold Checked.failure?
  rcases parseView maxRange checked.text with (⟨⟨own⟩⟩ | _) | template
  · simp
  · simp
  · simp

theorem find?_of_only {α : Type} {rows : List α} {wanted : α → Bool} {row : α} (member : row ∈ rows)
    (own : wanted row = true) (only : ∀ other ∈ rows, wanted other = true → other = row) :
    rows.find? wanted = some row := by
  obtain ⟨found, search⟩ := Option.isSome_iff_exists.mp (List.find?_isSome.mpr ⟨row, member, own⟩)
  rw [search, only found (List.mem_of_find?_eq_some search) (List.find?_some search)]

theorem checkFailures?_eq {maxRange : Nat} {texts : List Checked}
    (returns : ∀ checked ∈ texts, parseView maxRange checked.text ≠ .error .crashed) :
    checkFailures? maxRange texts = some (texts.filterMap (Checked.failure? maxRange)) := by
  induction texts with
  | nil => rfl
  | cons checked rest ih =>
      have own := returns checked List.mem_cons_self
      have later := ih fun other member => returns other (List.mem_cons_of_mem _ member)
      unfold checkFailures? Checked.failure?
      rw [List.filterMap_cons, later]
      rcases parsed : parseView maxRange checked.text with (error | _) | template
      · rfl
      · exact absurd parsed own
      · rfl

namespace Site

variable {site : Site}

def activePages (site : Site) : List Page :=
  site.stores.pages.table.rows.filter fun page => page.status = .active

def activeWidgets (site : Site) : List Store.Widget :=
  site.stores.widgets.table.rows.filter fun widget => widget.status = .active

def failures (site : Site) : List CheckFailure :=
  (checkedTexts site).filterMap (Checked.failure? site.settings.maxRange)

structure Parses (site : Site) : Prop where
  pages : ∀ page ∈ site.activePages,
    parseView site.settings.maxRange page.body ≠ .error .crashed
  widgets : ∀ widget ∈ site.activeWidgets,
    parseView site.settings.maxRange widget.content ≠ .error .crashed

def parserReturns (maxRange : Nat) (text : String) : Bool :=
  match parseView maxRange text with
  | .error .crashed => false
  | _ => true

theorem parserReturns_iff {maxRange : Nat} {text : String} :
    parserReturns maxRange text = true ↔ parseView maxRange text ≠ .error .crashed := by
  unfold parserReturns
  rcases parseView maxRange text with (_ | _) | _ <;> simp

instance (site : Site) : Decidable site.Parses :=
  decidable_of_iff
    ((∀ page ∈ site.activePages, parserReturns site.settings.maxRange page.body = true) ∧
      ∀ widget ∈ site.activeWidgets, parserReturns site.settings.maxRange widget.content = true)
    ⟨fun returns => ⟨fun page active => parserReturns_iff.mp (returns.1 page active),
        fun widget active => parserReturns_iff.mp (returns.2 widget active)⟩,
      fun parses => ⟨fun page active => parserReturns_iff.mpr (parses.pages page active),
        fun widget active => parserReturns_iff.mpr (parses.widgets widget active)⟩⟩

theorem mem_checkedTexts {checked : LiveViews.Checked} : checked ∈ checkedTexts site ↔
    (∃ page ∈ site.activePages, checked = ⟨"page " ++ page.path, page.body⟩) ∨
      ∃ widget ∈ site.activeWidgets, checked = ⟨"widget " ++ widget.name, widget.content⟩ := by
  simp only [checkedTexts, List.mem_append, List.mem_map, activePages, activeWidgets, eq_comm]

theorem Parses.check? (parses : site.Parses) :
    LiveViews.check? site =
      some (site.activePages.length + site.activeWidgets.length, site.failures) := by
  have returns : ∀ checked ∈ checkedTexts site,
      parseView site.settings.maxRange checked.text ≠ .error .crashed := by
    intro checked member
    rcases mem_checkedTexts.mp member with ⟨page, active, rfl⟩ | ⟨widget, active, rfl⟩
    · exact parses.pages page active
    · exact parses.widgets widget active
  have count : (checkedTexts site).length =
      site.activePages.length + site.activeWidgets.length := by
    simp [checkedTexts, activePages, activeWidgets]
  unfold LiveViews.check?
  dsimp only
  rw [checkFailures?_eq returns, ← count]
  rfl

theorem mem_failures {subject : String} {diagnostics : List Diagnostic} :
    ⟨subject, diagnostics⟩ ∈ site.failures ↔
      ∃ checked ∈ checkedTexts site, checked.subject = subject ∧
        parseView site.settings.maxRange checked.text = .error (.refused ⟨diagnostics⟩) := by
  simp only [failures, List.mem_filterMap, Checked.failure?_eq_some]

theorem append_left_cancel {front left right : String} (same : front ++ left = front ++ right) :
    left = right := by
  have chars := congrArg String.toList same
  rw [String.toList_append, String.toList_append] at chars
  exact String.toList_inj.mp (List.append_cancel_left chars)

theorem page_ne_widget (path name : String) : "page " ++ path ≠ "widget " ++ name := by
  intro same
  have chars := congrArg String.toList same
  rw [String.toList_append, String.toList_append] at chars
  cases chars

theorem Stocked.page_unique (stocked : site.Stocked) {page other : Page}
    (member : page ∈ site.activePages) (otherMem : other ∈ site.activePages)
    (same : page.path = other.path) : page = other := by
  apply stocked.pages.eq_of_shares (List.mem_of_mem_filter member) (List.mem_of_mem_filter otherMem)
  refine ⟨("path", page.path), by simp [Row.uniqueKeys], ?_⟩
  rw [same]
  simp [Row.uniqueKeys]

theorem Stocked.widget_unique (stocked : site.Stocked) {widget other : Store.Widget}
    (member : widget ∈ site.activeWidgets) (otherMem : other ∈ site.activeWidgets)
    (same : widget.name = other.name) : widget = other := by
  apply stocked.widgets.eq_of_shares (List.mem_of_mem_filter member)
    (List.mem_of_mem_filter otherMem)
  refine ⟨("name", widget.name), by simp [Row.uniqueKeys], ?_⟩
  rw [same]
  simp [Row.uniqueKeys]

theorem Stocked.subject_unique (stocked : site.Stocked) {first second : LiveViews.Checked}
    (firstMem : first ∈ checkedTexts site) (secondMem : second ∈ checkedTexts site)
    (same : first.subject = second.subject) : first = second := by
  rcases mem_checkedTexts.mp firstMem with ⟨page, active, rfl⟩ | ⟨widget, active, rfl⟩ <;>
    rcases mem_checkedTexts.mp secondMem with ⟨other, otherMem, rfl⟩ | ⟨other, otherMem, rfl⟩
  · rw [stocked.page_unique active otherMem (append_left_cancel same)]
  · exact absurd same (page_ne_widget _ _)
  · exact absurd same.symm (page_ne_widget _ _)
  · rw [stocked.widget_unique active otherMem (append_left_cancel same)]

theorem Stocked.reported (stocked : site.Stocked) {checked : LiveViews.Checked}
    (member : checked ∈ checkedTexts site) (diagnostics : List Diagnostic) :
    ⟨checked.subject, diagnostics⟩ ∈ site.failures ↔
      parseView site.settings.maxRange checked.text = .error (.refused ⟨diagnostics⟩) := by
  rw [mem_failures]
  constructor
  · rintro ⟨other, otherMem, subject, refused⟩
    rwa [← stocked.subject_unique otherMem member subject]
  · intro refused
    exact ⟨checked, member, rfl, refused⟩

theorem Stocked.page_reported (stocked : site.Stocked) {page : Page}
    (active : page ∈ site.activePages) (diagnostics : List Diagnostic) :
    ⟨"page " ++ page.path, diagnostics⟩ ∈ site.failures ↔
      parseView site.settings.maxRange page.body = .error (.refused ⟨diagnostics⟩) :=
  stocked.reported (mem_checkedTexts.mpr (Or.inl ⟨page, active, rfl⟩)) diagnostics

theorem Stocked.widget_reported (stocked : site.Stocked) {widget : Store.Widget}
    (active : widget ∈ site.activeWidgets) (diagnostics : List Diagnostic) :
    ⟨"widget " ++ widget.name, diagnostics⟩ ∈ site.failures ↔
      parseView site.settings.maxRange widget.content = .error (.refused ⟨diagnostics⟩) :=
  stocked.reported (mem_checkedTexts.mpr (Or.inr ⟨widget, active, rfl⟩)) diagnostics

/-! ### Compiling what is checked -/

theorem mem_activePages {page : Page} : page ∈ site.activePages ↔
    page ∈ site.stores.pages.table.rows ∧ page.status = .active := by
  simp [activePages]

theorem mem_activeWidgets {widget : Store.Widget} : widget ∈ site.activeWidgets ↔
    widget ∈ site.stores.widgets.table.rows ∧ widget.status = .active := by
  simp [activeWidgets]

theorem Stocked.page? (stocked : site.Stocked) {page : Page} (active : page ∈ site.activePages) :
    site.page? page.path = some page := by
  obtain ⟨stored, status⟩ := mem_activePages.mp active
  apply find?_of_only stored (by simp [status])
  intro other member wanted
  rw [Bool.and_eq_true, decide_eq_true_eq, decide_eq_true_eq] at wanted
  exact stocked.page_unique (mem_activePages.mpr ⟨member, wanted.2⟩) active wanted.1

theorem Stocked.activeContent (stocked : site.Stocked) {widget : Store.Widget}
    (active : widget ∈ site.activeWidgets) :
    LiveViews.activeContent site.stores.widgets.table.rows widget.name = some widget.content := by
  obtain ⟨stored, status⟩ := mem_activeWidgets.mp active
  have search : site.stores.widgets.table.rows.find? (fun other =>
      other.name = widget.name && other.status = .active) = some widget := by
    apply find?_of_only stored (by simp [status])
    intro other member wanted
    rw [Bool.and_eq_true, decide_eq_true_eq, decide_eq_true_eq] at wanted
    exact stocked.widget_unique (mem_activeWidgets.mpr ⟨member, wanted.2⟩) active wanted.1
  rw [LiveViews.activeContent, search, Option.map_some]

theorem template_of_page {key : String} {page : Page}
    (found : site.page? (site.normal key) = some page) :
    site.template key = (pageSource page).template key site.settings.maxRange := by
  unfold template source
  rw [found]

theorem template_pageSource (page : Page) (path : String) (maxRange : Nat) (error : ParseError) :
    (pageSource page).template path maxRange = .error (.parse error) ↔
      parseView maxRange page.body = .error (.refused error) := by
  unfold Source.template
  rw [text_pageSource]
  dsimp only
  rcases parseView maxRange page.body with (own | _) | template
  · simp
  · simp
  · simp

theorem compiledView_error_iff (calm : site.Calm) {path : String} (unkept : site.compiled? path = none)
    (error : RenderError) :
    (LiveViews.compiledView path site).1 = .error error ↔ site.template path = .error error := by
  have settings := settings_of_fresh (notified_resolve calm path).fresh
  have answered := congrArg Prod.fst (resolve_calm calm path)
  rw [LiveViews.compiledView, SiteM.bind_apply, SiteM.get_apply]
  simp only [unkept, SiteM.bind_apply]
  generalize LiveViews.resolve path site = ran at settings answered
  obtain ⟨answer, later⟩ := ran
  dsimp only at settings answered ⊢
  subst answered
  unfold template
  rcases site.source path with own | (_ | source)
  · constructor <;> rintro ⟨⟩ <;> rfl
  · constructor <;> rintro ⟨⟩ <;> rfl
  · simp only [Except.map, Option.map, compileSource_eq, settings]
    cases source.template path site.settings.maxRange with
    | error own => constructor <;> rintro ⟨⟩ <;> rfl
    | ok template => constructor <;> rintro ⟨⟩

theorem Stocked.page_compiles (stocked : site.Stocked) (calm : site.Calm) {page : Page}
    (active : page ∈ site.activePages) {key : String} (spells : site.normal key = page.path)
    (unkept : site.compiled? key = none) (error : ParseError) :
    (LiveViews.compiledView key site).1 = .error (.parse error) ↔
      parseView site.settings.maxRange page.body = .error (.refused error) := by
  have found := stocked.page? active
  rw [← spells] at found
  rw [compiledView_error_iff calm unkept, template_of_page found, template_pageSource]

/-! ### Rendering what is checked -/

def WidgetsParse (site : Site) : Prop :=
  ∀ widget ∈ site.activeWidgets, ∀ error,
    parseView site.settings.maxRange widget.content ≠ .error (.refused error)

def OtherThanParse (error : RenderError) : Prop :=
  ∀ refused, error ≠ .parse refused

theorem WidgetsParse.of_fresh {base : Site} (parse : site.WidgetsParse)
    (same : base.fresh = site.fresh) : base.WidgetsParse := by
  unfold WidgetsParse activeWidgets
  rw [stores_of_fresh same, settings_of_fresh same]
  exact parse

theorem WidgetsParse.admits {base : Site} (parse : base.WidgetsParse) (calm : base.Calm)
    (model : Value) :
    Terms.Admits ⟨base.Echoes, OtherThanParse, True⟩ (siteContext base model [] siteWidgets) := by
  obtain ⟨-, fragments, report, -, -⟩ := admits_siteContext calm True model
  refine ⟨fun _ _ other => other, fragments, report, ?_, ?_⟩
  · rintro _ _ ⟨⟩ ⟨⟩ name world echoes
    exact ⟨echoes, nofun⟩
  · rintro _ _ ⟨⟩ ⟨⟩ name world content echoes found error refused
    have content? : LiveViews.activeContent world.stores.widgets.table.rows name = some content :=
      Except.ok.inj found
    rw [stores_of_fresh echoes.fresh, LiveViews.activeContent, Option.map_eq_some_iff] at content?
    obtain ⟨widget, search, rfl⟩ := content?
    have wanted := List.find?_some search
    rw [Bool.and_eq_true, decide_eq_true_eq, decide_eq_true_eq] at wanted
    have active := mem_activeWidgets.mpr ⟨List.mem_of_find?_eq_some search, wanted.2⟩
    exact absurd refused (parse widget active error)

theorem renderPath_ne_parse (calm : site.Calm) (parse : site.WidgetsParse) {path : String}
    (compiles : ∀ error, (LiveViews.compiledView path site).1 ≠ .error (.parse error)) (fuel : Nat)
    (model : Value) (error : ParseError) :
    (renderPath fuel path model [] siteWidgets site).1 ≠ .error (.parse error) := by
  intro fails
  have admits := fun (base : Site) (baseCalm : base.Calm) (same : base.fresh = site.fresh) =>
    (parse.of_fresh same).admits baseCalm model
  rcases renderPath_failure calm admits fails with compiling | rendering
  · exact compiles error compiling
  · cases rendering with
    | cause other => exact other error rfl

theorem renderView_ne_parse (calm : site.Calm) (parse : site.WidgetsParse) {name path : String}
    {routing : View.Routing} (found : (findView name routing site).1 = .ok (.found path))
    (compiles : ∀ error, (LiveViews.compiledView path site).1 ≠ .error (.parse error)) (fuel : Nat)
    (model : Value) (error : ParseError) :
    (renderView fuel name routing model site).1 ≠ .error (.render (.parse error)) := by
  rw [findView_calm calm] at found
  intro fails
  have refused := renderPath_of_renderView calm found fails
  exact renderPath_ne_parse calm parse compiles fuel model error refused

theorem page_compiles_kept (stocked : site.Stocked) (calm : site.Calm) {page : Page}
    (active : page ∈ site.activePages) {path : String} (spells : site.normal path = page.path)
    (silent : site.failures = []) (error : ParseError) :
    (LiveViews.compiledView path site).1 ≠ .error (.parse error) := by
  intro fails
  cases kept : site.compiled? path with
  | some compiled =>
      rw [LiveViews.compiledView, SiteM.bind_apply, SiteM.get_apply, kept] at fails
      cases fails
  | none =>
      have refused := (stocked.page_compiles calm active spells kept error).mp fails
      have reported := (stocked.page_reported active error.diagnostics).mpr refused
      rw [silent] at reported
      cases reported

theorem Stocked.widgetsParse (stocked : site.Stocked) (silent : site.failures = []) :
    site.WidgetsParse := by
  intro widget active error refused
  have reported := (stocked.widget_reported active error.diagnostics).mpr refused
  rw [silent] at reported
  cases reported

/-- What the failures that the check names say of compiling and rendering. -/
structure Foretold (site : Site) (failures : List CheckFailure) : Prop where
  /-- A page is named with what compiling it fails with, under whatever key that spells its path. -/
  pages : ∀ page ∈ site.activePages, (∃ key, site.normal key = page.path) ∧
    ∀ key, site.normal key = page.path → ∀ diagnostics,
      ⟨"page " ++ page.path, diagnostics⟩ ∈ failures ↔
        (compiledView key { site with compiled := [] }).1 = .error (.parse ⟨diagnostics⟩)
  /-- A widget is named with what its content fails with in a directive that finds it, whatever that
  has compiled before. -/
  widgets : ∀ widget ∈ site.activeWidgets,
    activeContent site.stores.widgets.table.rows widget.name = some widget.content ∧
    ∀ diagnostics memory index, memory.Holds site.settings.maxRange →
      (⟨"widget " ++ widget.name, diagnostics⟩ ∈ failures ↔
        childTemplate site.settings.maxRange memory index widget.content =
          .error (.refused ⟨diagnostics⟩))
  remembered : ∀ entry ∈ site.compiled, entry.2.memory.Holds site.settings.maxRange
  others : ∀ failure ∈ failures,
    (∃ page ∈ site.activePages, failure.subject = "page " ++ page.path) ∨
      ∃ widget ∈ site.activeWidgets, failure.subject = "widget " ++ widget.name
  silent : failures = [] → ∀ fuel name routing model path,
    (findView name routing site).1 = .ok (.found path) →
    (∃ page ∈ site.activePages, page.path = site.normal path) →
      ∀ error, (renderView fuel name routing model site).1 ≠ .error (.render (.parse error))

theorem Stocked.foretold (stocked : site.Stocked) (quiet : site.Quiet) :
    site.Foretold site.failures := by
  constructor
  · intro page active
    refine ⟨stocked.pages.fits page (mem_activePages.mp active).1, ?_⟩
    intro key spells diagnostics
    rw [stocked.page_reported active]
    have empty : Stocked { site with compiled := [] } :=
      ⟨stocked.pages, stocked.layouts, stocked.widgets⟩
    exact (empty.page_compiles quiet.calm active spells rfl ⟨diagnostics⟩).symm
  · intro widget active
    refine ⟨stocked.activeContent active, ?_⟩
    intro diagnostics memory index holds
    rw [stocked.widget_reported active]
    obtain ⟨inner, _, child⟩ := childTemplate_eq holds index widget.content
    rw [child]
    rcases parseView site.settings.maxRange widget.content with stop | template
    · constructor <;> rintro ⟨⟩ <;> rfl
    · exact ⟨nofun, nofun⟩
  · exact quiet.memory
  · rintro ⟨subject, diagnostics⟩ named
    obtain ⟨checked, member, rfl, _⟩ := mem_failures.mp named
    rcases mem_checkedTexts.mp member with ⟨page, active, rfl⟩ | ⟨widget, active, rfl⟩
    · exact Or.inl ⟨page, active, rfl⟩
    · exact Or.inr ⟨widget, active, rfl⟩
  · rintro silent fuel name routing model path found ⟨page, active, spells⟩ error
    have compiles := page_compiles_kept stocked quiet.calm active spells.symm silent
    exact renderView_ne_parse quiet.calm (stocked.widgetsParse silent) found compiles fuel model error

end Site

/-- On a site that was filled by seeding and writing, whatever was rendered, changed and signalled in
between: where the parser returns on all that is active, the check counts the active pages and widgets,
and it foretells which of them fail to parse, and that no view that is a stored page does if it names
none. -/
theorem check_predicts_rendering (start : Site) (opened : start.Opened) (stocked : start.Stocked)
    (root : String) (steps : List Site.ServedStep)
    (written : ∀ step ∈ steps, step.editsPages = false)
    (parses : (start.serveAll root steps).Parses) :
    let site := start.serveAll root steps
    ∃ failures,
      check? site = some (site.activePages.length + site.activeWidgets.length, failures) ∧
      site.Foretold failures := by
  intro site
  have orderly : start.Orderly := ⟨opened.steady.quiet, stocked.sound⟩
  have reached := orderly.serveAll root steps
  have filled := stocked.serveAll orderly root written
  exact ⟨site.failures, parses.check?, filled.foretold reached.quiet⟩

def checkedSteps : List Site.ServedStep :=
  [.observe (.use (.writePage ⟨"a", "\x7b% render w:x %\x7d", "/A"⟩)),
    .observe (.use (.writeWidget ⟨"w", "\x7b\x7b"⟩)),
    .observe (.use (.render 8 "~/a" .nil [] .stored {}))]

theorem check_predicts_rendering_steps : Site.Opened {} ∧ Site.Stocked {} ∧
    (∀ step ∈ checkedSteps, step.editsPages = false) ∧
    let site := ({} : Site).serveAll "" checkedSteps
    site.Parses ∧ ∃ failures, check? site = some (2, failures) ∧ failures ≠ [] ∧
      site.Foretold failures := by
  have opened : Site.Opened {} := ⟨rfl, rfl, rfl, rfl⟩
  have stocked : Site.Stocked {} := Site.stocked_of_empty rfl
  have written : ∀ step ∈ checkedSteps, step.editsPages = false := by
    simp [checkedSteps, Site.ServedStep.editsPages]
  have parses : (({} : Site).serveAll "" checkedSteps).Parses := by decide +kernel
  obtain ⟨failures, counted, foretold⟩ :=
    check_predicts_rendering {} opened stocked "" checkedSteps written parses
  have both : (({} : Site).serveAll "" checkedSteps).activePages.length +
      (({} : Site).serveAll "" checkedSteps).activeWidgets.length = 2 := by decide +kernel
  have named : (check? (({} : Site).serveAll "" checkedSteps)).map (fun answer =>
      answer.2.length) = some 1 := by decide +kernel
  rw [both] at counted
  refine ⟨opened, stocked, written, parses, failures, counted, ?_, foretold⟩
  rintro rfl
  rw [counted] at named
  cases named

end LiveViews
