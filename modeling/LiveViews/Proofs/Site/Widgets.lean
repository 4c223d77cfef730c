import LiveViews.Proofs.Render.Expansion
import LiveViews.Proofs.Site.Causes
import LiveViews.Proofs.Site.Operations

/-!
Widgets of a site. A view of literal text and widget directives is rendered to its expansion by the
stored widgets, whatever the site was used for before (`renders_expansion`).
-/

namespace LiveViews

open LiveViews.Liquid (Block Template Value Members)

section Templates

variable {World : Type} {widgets : String → Option String} {calm : World → Prop}
  {range limit : Nat} {context : Context World} {frame : Frame World}
  {content? : String → World → Except RenderError (Option String) × World}

theorem renderTemplate_expansion (bodies : PlainBodies widgets range)
    (here : context.frame = some frame) (serves : Serves widgets calm range limit 0 frame content?)
    {fuel : Nat} (enough : limit < fuel) {template : Template}
    (plain : template.body.isPlain = true) {memory : Memory} (holds : memory.Holds range)
    {world : World} (starts : calm world) :
    (renderTemplate fuel context template memory none world).result =
      expansion widgets range limit template.body := by
  have tidy : Tidy calm range { world := world, memory := memory, cause := none } :=
    ⟨starts, holds, rfl, rfl⟩
  have ended := runTemplate_ends bodies (Nat.zero_add limit) fuel enough context frame content? here
    serves template plain _ tidy
  unfold renderTemplate expansion
  dsimp only
  generalize (runTemplate fuel context template).run.run
    { world := world, memory := memory, cause := none } = ran at ended ⊢
  generalize expandBlock (expandWidget widgets range limit limit) template.body = expected at ended ⊢
  cases ended with
  | done output _ => exact congrArg Except.ok (output.trans String.empty_append)
  | @failed error engine final cause =>
      show Except.error (final.cause.getD _) = Except.error error
      rw [cause, Option.getD_some]
  | crashed cause => rfl

end Templates

section Specification

variable {widgets : String → Option String} {range limit : Nat}

theorem expandBlock_ends {find : String → Except RenderError String}
    (ends : ∀ name, find name ≠ .error .endless) (block : Block) :
    expandBlock find block ≠ .error .endless := by
  fun_induction expandBlock find block with
  | case1 => simp
  | case2 content rest ih =>
      revert ih
      rcases expandBlock find rest with error | later
      · exact fun ih => ih
      · simp [Except.map]
  | case3 index name entity rest ih =>
      have named := ends name
      revert named ih
      rcases find name with error | text
      · exact fun _ named => named
      · rcases expandBlock find rest with error | later
        · exact fun ih _ => ih
        · simp [bind, Except.bind, pure, Except.pure]
  | case4 first rest _ _ ih => exact ih

theorem expandWidget_ends (room : Nat) (name : String) :
    expandWidget widgets range limit room name ≠ .error .endless := by
  induction room generalizing name with
  | zero => simp [expandWidget]
  | succ room ih =>
      unfold expandWidget
      cases widgets name with
      | none => simp
      | some content =>
          dsimp only
          rcases parseView range content with (error | _) | template
          · simp
          · simp
          · exact expandBlock_ends ih template.body

end Specification

namespace Site

def widget? (site : Site) (name : String) : Option String :=
  activeContent site.stores.widgets.table.rows name

theorem plainBodies_of_rows {site : Site} (plain : ∀ widget ∈ site.stores.widgets.table.rows,
    (parseView site.settings.maxRange widget.content).toOption.all
      (fun template => template.body.isPlain) = true) :
    PlainBodies site.widget? site.settings.maxRange := by
  intro name content template found parsed
  obtain ⟨row, known, rfl⟩ := Option.map_eq_some_iff.mp found
  have bodies := plain row (List.mem_of_find?_eq_some known)
  rw [parsed] at bodies
  exact bodies

theorem serves_widgets {base site : Site} (same : base.fresh = site.fresh) (settings : View.Settings) :
    Serves site.widget? base.Echoes settings.maxRange settings.maxWidgetDepth 0
      (siteFrame settings siteWidgets)
      (fun name world => (.ok (activeContent world.stores.widgets.table.rows name), world)) := by
  refine ⟨rfl, rfl, rfl, rfl, ?_⟩
  intro name world echoes
  have stores : world.stores = site.stores := by
    show world.fresh.stores = site.fresh.stores
    rw [echoes.fresh, same]
  rw [stores]
  rfl

end Site

/-- Whatever a site was used for, a view of text and widget directives is rendered to its expansion:
it comes to an end, no text runs deeper than the limit, and the first directive that cannot be
expanded is the one that the render fails by. -/
theorem renders_expansion (start : Site) (opened : start.Opened) (operations : List SiteOperation)
    (fuel : Nat) (path : String) (model : Value) (ambient : Members) (compiled : Compiled)
    (enough : (start.operateAll operations).settings.maxWidgetDepth < fuel)
    (bodies : PlainBodies (start.operateAll operations).widget?
      (start.operateAll operations).settings.maxRange)
    (compiles : (compiledView path (start.operateAll operations)).1 = .ok compiled)
    (plain : compiled.template.body.isPlain = true) :
    let site := start.operateAll operations
    let expanded := expansion site.widget? site.settings.maxRange site.settings.maxWidgetDepth
      compiled.template.body
    (renderPath fuel path model ambient siteWidgets site).1 = expanded ∧
    expanded ≠ .error .endless ∧
    ∀ event ∈ (compiledView path site).2.renderEvents fuel compiled model ambient siteWidgets,
      event.depth ≤ site.settings.maxWidgetDepth := by
  have steady := opened.steady.operateAll operations
  generalize start.operateAll operations = site at steady enough bodies compiles ⊢
  intro site expanded
  have same := (Site.viewCompiled steady.calm path).fresh
  have settings := Site.settings_of_fresh same
  have holds := steady.quiet.compiled_memory compiles
  refine ⟨?_, expandBlock_ends (expandWidget_ends _) _, ?_⟩
  · rw [renderPath, SiteM.bind_apply, compiles]
    have serves := Site.serves_widgets same site.settings
    have here : (siteContext (compiledView path site).2 model ambient siteWidgets).frame =
        some (siteFrame site.settings siteWidgets) := by
      rw [← settings]
      rfl
    exact renderTemplate_expansion bodies here serves enough plain holds (Site.Echoes.refl _)
  · intro event member
    rw [← settings]
    exact (Record.ofTemplate fuel _ _ compiled.template).deep _ event member

def cycleOperations : List SiteOperation :=
  [.writeWidget ⟨"ping", "(\x7b% render pong:x %\x7d"⟩,
    .writeWidget ⟨"pong", ")\x7b% render ping:x %\x7d"⟩,
    .writePage ⟨"cycle", "\x7b% render ping:x %\x7d", "/cycle"⟩,
    .render 17 "/cycle" .nil [] .stored {}]

def cycleSite : Site :=
  Site.operateAll {} cycleOperations

theorem renders_expansion_cycleSite : Site.Opened {} ∧ ∃ compiled : Compiled,
    (compiledView "/cycle" cycleSite).1 = .ok compiled ∧
    (renderPath 17 "/cycle" .nil [] siteWidgets cycleSite).1 =
      expansion cycleSite.widget? cycleSite.settings.maxRange cycleSite.settings.maxWidgetDepth
        compiled.template.body := by
  have opened : Site.Opened {} := ⟨rfl, rfl, rfl, rfl⟩
  have compiles : ((compiledView "/cycle" cycleSite).1.toOption.map fun compiled =>
      compiled.template.body.isPlain) = some true := by decide +kernel
  obtain ⟨compiled, found, plain⟩ := Option.map_eq_some_iff.mp compiles
  cases answer : (compiledView "/cycle" cycleSite).1 with
  | error error =>
      rw [answer] at found
      cases found
  | ok known =>
      rw [answer] at found
      cases found
      have bodies : PlainBodies cycleSite.widget? cycleSite.settings.maxRange :=
        Site.plainBodies_of_rows (by decide +kernel)
      have rendered := renders_expansion {} opened cycleOperations 17 "/cycle" .nil [] compiled
        (by decide +kernel) bodies answer plain
      exact ⟨opened, compiled, rfl, rendered.1⟩

example : (renderPath 17 "/cycle" .nil [] siteWidgets cycleSite).1 =
    .error (.recursionLimit "ping" 16) := by
  decide +kernel

def numberContent : String :=
  "\x7b\x7b 99999999999999999999 \x7d\x7d"

def numberSite : Site :=
  Site.operateAll {} [.writeWidget ⟨"number", numberContent⟩,
    .writePage ⟨"home", "\x7b% render number:x %\x7d", "/home"⟩]

/-- A widget on which the engine's parser breaks down lets the render break down, too. -/
theorem task_on_great_number : numberSite.widget? "number" = some numberContent ∧
    (parseView numberSite.settings.maxRange numberContent).isOk = false ∧
    (renderPath 17 "/home" .nil [] siteWidgets numberSite).1 = .error .task ∧
    ∀ error, (renderPath 17 "/home" .nil [] siteWidgets numberSite).1 ≠ .error (.parse error) := by
  have broken : (renderPath 17 "/home" .nil [] siteWidgets numberSite).1 = .error .task := by
    decide +kernel
  refine ⟨by decide +kernel, by decide +kernel, broken, ?_⟩
  intro error parsed
  rw [broken] at parsed
  cases parsed

end LiveViews
