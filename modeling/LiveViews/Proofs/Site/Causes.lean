import LiveViews.Proofs.Render.Record
import LiveViews.Proofs.Site.Reading
import Mathlib.Control.Monad.Basic

/-!
Why a render fails. If widget directives fail in it, it fails with the error of the first one, which
is the innermost of those that it takes with it. If none does, it fails with the error of the engine, or
with that of its task where the engine breaks down. Nothing of an earlier render comes into it, and the
sink is left alone (`fails_by_first_directive`).
-/

namespace LiveViews

open LiveViews.Liquid (Template Value Members)

/-- The error of a render in which no directive failed. -/
def ownError : Liquid.Stop → RenderError
  | .failed error => .liquid error
  | .crashed => .task
  | .endless => .endless

theorem isTask_ownError {stop : Liquid.Stop} (breaks : stop.isBreakdown = true) :
    (ownError stop).isTask = true := by
  cases stop with
  | failed engine => cases breaks
  | crashed | endless => rfl

def resultOf (events : List Event) : Except Liquid.Stop String → Except RenderError String
  | .ok text => .ok text
  | .error stop => .error ((firstError events).getD (ownError stop))

theorem stopError_none (stop : Liquid.Stop) : stopError none stop = ownError stop := by
  cases stop <;> rfl

section Templates

variable {World : Type} {limit : Nat} {context : Context World}

def renderStart (memory : Memory) (world : World) : RunState World :=
  { world := world, memory := memory, cause := none }

def textOf (fuel : Nat) (context : Context World) (template : Template) (start : RunState World) :
    Except Liquid.Stop String :=
  let (result, final) := (runTemplate fuel context template).run.run start
  result.map fun _ => final.output

theorem renderTemplate_result (fuel : Nat) (within : context.Within limit) (template : Template)
    (memory : Memory) (world : World) :
    (renderTemplate fuel context template memory none world).result =
      resultOf ((Record.ofTemplate fuel context within template).events (renderStart memory world))
        (textOf fuel context template (renderStart memory world)) := by
  have caused := (Record.ofTemplate fuel context within template).cause (renderStart memory world)
  have stopped := (Record.ofTemplate fuel context within template).stops (renderStart memory world)
  have fresh : (renderStart memory world).cause = none := rfl
  rw [fresh, Option.none_or] at caused
  rw [← caused] at stopped
  unfold renderTemplate resultOf textOf
  rw [← caused]
  unfold renderStart at *
  dsimp only
  generalize (runTemplate fuel context template).run.run
    { world := world, memory := memory, cause := none } = ran at stopped ⊢
  obtain ⟨stop | _, final⟩ := ran
  · show Except.error (stopError final.cause stop) = Except.error (final.cause.getD (ownError stop))
    cases left : final.cause with
    | none => rw [stopError_none, Option.getD_none]
    | some error =>
        have failed := stopped (by simp [left])
        cases failed with
        | stopped engine => rfl
  · rfl

theorem firstError_of_textOf (fuel : Nat) (within : context.Within limit) (template : Template)
    (start : RunState World)
    (other : ∀ engine, textOf fuel context template start ≠ .error (.failed engine)) :
    firstError ((Record.ofTemplate fuel context within template).events start) = none := by
  have stopped := (Record.ofTemplate fuel context within template).stops start
  by_contra some
  have failed := stopped some
  unfold textOf at other
  revert failed other
  rcases (runTemplate fuel context template).run.run start with ⟨stop | _, final⟩
  · intro other failed
    cases failed with
    | stopped engine => exact other engine rfl
  · intro _ failed
    cases failed with
    | told impossible => exact impossible

end Templates

namespace Site

theorem siteContext_within (site : Site) (model : Value) (ambient : Members)
    (widgets : WidgetSource Site) :
    (siteContext site model ambient widgets).Within site.settings.maxWidgetDepth := by
  rintro _ ⟨⟩
  exact ⟨Nat.zero_le _, rfl⟩

/-- What becomes of the directives of a compiled view when it is rendered. -/
def renderEvents (fuel : Nat) (compiled : Compiled) (model : Value) (ambient : Members)
    (widgets : WidgetSource Site) (site : Site) : List Event :=
  (Record.ofTemplate fuel (siteContext site model ambient widgets)
    (site.siteContext_within model ambient widgets) compiled.template).events
      (renderStart compiled.memory site)

def renderText (fuel : Nat) (compiled : Compiled) (model : Value) (ambient : Members)
    (widgets : WidgetSource Site) (site : Site) : Except Liquid.Stop String :=
  textOf fuel (siteContext site model ambient widgets) compiled.template
    (renderStart compiled.memory site)

theorem renderPath_eq (fuel : Nat) (path : String) (model : Value) (ambient : Members)
    (widgets : WidgetSource Site) (site : Site) :
    (renderPath fuel path model ambient widgets site).1 =
      match compiledView path site with
      | (.error error, _) => .error error
      | (.ok compiled, after) =>
        resultOf (after.renderEvents fuel compiled model ambient widgets)
          (after.renderText fuel compiled model ambient widgets) := by
  rw [renderPath, SiteM.bind_apply]
  rcases compiledView path site with ⟨error | compiled, after⟩
  · rfl
  · exact renderTemplate_result fuel _ compiled.template compiled.memory after

end Site

theorem Sink.write_failed {sink later : Sink} {text : String} {error : RenderError}
    (failed : sink.write text = (.error error, later)) : error = .sink := by
  unfold write at failed
  split at failed
  · cases failed
  · cases failed
    rfl

/-- A view that compiles is rendered with the error of the first directive to fail; else with the error
that the engine returned; else, where the engine broke down instead, with that of the render's task. The
whole text of a run that succeeds is written to the sink at once. On any error but that of the sink
itself, which may have taken a part of the text, the sink has received nothing. -/
theorem fails_by_first_directive (fuel : Nat) (path : String) (model : Value) (ambient : Members)
    (widgets : WidgetSource Site) (sink : Sink) (site : Site) :
    let answer := (renderInto fuel path model ambient widgets sink site).1
    (∀ error, answer.1 = .error error → error ≠ .sink → answer.2 = sink) ∧
    match compiledView path site with
    | (.error error, _) => answer = (.error error, sink)
    | (.ok compiled, after) =>
      let failure := firstError (after.renderEvents fuel compiled model ambient widgets)
      let ran := after.renderText fuel compiled model ambient widgets
      (∀ error, failure = some error → answer = (.error error, sink)) ∧
      (∀ engine, ran = .error (.failed engine) → failure = none →
        answer = (.error (.liquid engine), sink)) ∧
      (∀ stop, ran = .error stop → stop.isBreakdown = true →
        failure = none ∧ ∃ error, error.isTask = true ∧ answer = (.error error, sink)) ∧
      ∀ text, ran = .ok text → failure = none ∧ answer = sink.write text := by
  intro answer
  have whole : answer = _ :=
    congrArg Prod.fst (renderInto_eq fuel path model ambient widgets sink site)
  refine ⟨?_, ?_⟩
  · intro error failed other
    revert whole
    rcases (renderPath fuel path model ambient widgets site).1 with stopped | text
    · intro whole
      rw [whole]
    · intro whole
      have written : sink.write text = (.error error, answer.2) := by
        rw [← failed]
        exact whole.symm
      exact absurd (Sink.write_failed written) other
  rw [Site.renderPath_eq] at whole
  revert whole
  rcases compiledView path site with ⟨error | compiled, after⟩
  · exact fun whole => whole
  have silent : (∀ engine, after.renderText fuel compiled model ambient widgets ≠
      .error (.failed engine)) → firstError (after.renderEvents fuel compiled model ambient widgets) =
        none := firstError_of_textOf fuel _ compiled.template (renderStart compiled.memory after)
  revert silent
  dsimp only
  generalize after.renderText fuel compiled model ambient widgets = ran
  generalize after.renderEvents fuel compiled model ambient widgets = events
  intro silent whole
  refine ⟨?_, ?_, ?_, ?_⟩
  · intro error failed
    cases ran with
    | ok text =>
        rw [silent fun _ => nofun] at failed
        cases failed
    | error stop =>
        rw [whole, resultOf, failed]
        rfl
  · rintro engine rfl nothing
    rw [whole, resultOf, nothing]
    rfl
  · rintro stop rfl breaks
    have nothing := silent fun engine same => by
      cases same
      cases breaks
    refine ⟨nothing, ownError stop, isTask_ownError breaks, ?_⟩
    rw [whole, resultOf, nothing]
    rfl
  · rintro text rfl
    exact ⟨silent fun _ => nofun, whole⟩

def outerWidget : WidgetSource Site :=
  .service fun name site =>
    (.ok (if name = "outer" then some "\x7b% render inner:x %\x7d" else none), site)

example : firstError (Site.renderEvents 8 ⟨0, ⟨.step (.widget 0 "outer" "x") .done⟩, .empty⟩ .nil []
    outerWidget {}) = some (.missingEntity "widget" "inner") := by
  decide +kernel

/-- A table of no columns, at which the engine breaks down, and a plain text. -/
def brittleSite : Site where
  stores := {
    pages := ⟨⟨[
      { id := 1, name := "home", path := "/home",
        body := "\x7b% tablerow i in (1..3) cols:0 %\x7d\x7b% endtablerow %\x7d" },
      { id := 2, name := "note", path := "/note", body := "Bye" }], 2⟩, none⟩ }

/-- No directive fails in the table, and yet it is no error that the engine returned; and a sink that
fails has received a part of the plain text. -/
theorem task_on_no_columns :
    let ran := compiledView "/home" brittleSite
    let broken := (renderInto 8 "/home" .nil [] siteWidgets {} brittleSite).1
    let torn := (renderInto 8 "/note" .nil [] siteWidgets { takes? := fun _ _ => some 1 } brittleSite).1
    ran.1.toOption.map (fun compiled =>
        firstError (ran.2.renderEvents 8 compiled .nil [] siteWidgets)) = some none ∧
      broken.1 = .error .task ∧ torn.1 = .error .sink ∧ torn.2.written = "B" := by
  decide +kernel

end LiveViews
