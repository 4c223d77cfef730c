import LiveViews.Proofs.Render.Record
import LiveViews.Proofs.Site.Rendering

/-!
Isolation of widgets. A directive runs as it would with no variables around it and in a state that
has nothing assigned, counted or printed (`run_runWidget_bare`), and of its parent's state it changes no
more than what is printed. So neither side sees the variables of the other
(`directive_is_isolated`).
-/

namespace LiveViews

open LiveViews.Liquid

section Directives

variable {World : Type} {nested : Nested World} {context : Context World} {frame : Frame World}

def Context.bare (context : Context World) : Context World :=
  { context with layers := [], globals := [] }

def RunState.bare (state : RunState World) : RunState World :=
  { world := state.world, memory := state.memory, cause := state.cause }

/-- The state of a parent behind a directive that ran to `final` from a bare state. -/
def RunState.resume (state final : RunState World) : RunState World :=
  { state with
    world := final.world, memory := final.memory, cause := final.cause
    output := state.output ++ final.output }

theorem RunState.resume_bare (state : RunState World) : state.resume state.bare = state := by
  simp [resume, bare]

def RemembersAt (index : Nat) (memory later : Memory) : Prop :=
  later = memory ∨ ∃ entry, later = memory.set index entry

theorem run_widgetText_bare (nested : Nested World) (context : Context World) (frame : Frame World)
    (index : Nat) (name : String) (state : RunState World) :
    let bare := (widgetText nested context.bare frame index name).run.run state.bare
    (widgetText nested context frame index name).run.run state = (bare.1, state.resume bare.2) ∧
      bare.2.output = "" ∧ RemembersAt index state.memory bare.2.memory := by
  have kept : ∀ world memory cause, { state with world := world, memory := memory, cause := cause } =
      state.resume { world := world, memory := memory, cause := cause } := by
    intro world memory cause
    simp [RunState.resume]
  unfold widgetText
  cases frame.widgets with
  | noLocator => exact ⟨congrArg (Prod.mk _) (kept _ _ _), rfl, Or.inl rfl⟩
  | noService => exact ⟨congrArg (Prod.mk _) (kept _ _ _), rfl, Or.inl rfl⟩
  | service content? =>
      by_cases deep : frame.depth ≥ frame.maxDepth
      · simp only [if_pos deep]
        exact ⟨congrArg (Prod.mk _) (kept _ _ _), rfl, Or.inl rfl⟩
      · simp only [if_neg deep, run_bind, run_modifyGet]
        have sameWorld : state.bare.world = state.world := rfl
        rw [sameWorld]
        generalize content? name state.world = found
        obtain ⟨error | none | content, world⟩ := found
        · exact ⟨congrArg (Prod.mk _) (kept _ _ _), rfl, Or.inl rfl⟩
        · exact ⟨congrArg (Prod.mk _) (kept _ _ _), rfl, Or.inl rfl⟩
        · simp only [run_bind, run_get]
          have sameMemory : state.bare.memory = state.memory := rfl
          rw [sameMemory]
          cases childTemplate frame.maxRange state.memory index content with
          | error stop => cases stop <;> exact ⟨congrArg (Prod.mk _) (kept _ _ _), rfl, Or.inl rfl⟩
          | ok child =>
              simp only [run_runChild]
              exact ⟨congrArg (Prod.mk _) (kept _ _ _), rfl, Or.inr ⟨_, rfl⟩⟩

theorem runWidget_eq (here : context.frame = some frame) (index : Nat) (name : String) :
    runWidget nested context index name =
      widgetText nested context frame index name >>= finishDirective := by
  unfold runWidget
  rw [here]
  rfl

theorem run_runWidget_bare (nested : Nested World) (context : Context World) (index : Nat)
    (name : String) (state : RunState World) :
    let bare := (runWidget nested context.bare index name).run.run state.bare
    (runWidget nested context index name).run.run state = (bare.1, state.resume bare.2) ∧
      (bare.1 ≠ .ok () → bare.2.output = "") ∧ RemembersAt index state.memory bare.2.memory := by
  cases here : context.frame with
  | none =>
      have bareFrame : context.bare.frame = none := here
      unfold runWidget
      rw [here, bareFrame]
      refine ⟨?_, fun _ => rfl, Or.inl rfl⟩
      show (_, state) = (_, state.resume state.bare)
      rw [state.resume_bare]
      rfl
  | some frame =>
      have bareFrame : context.bare.frame = some frame := here
      rw [runWidget_eq here, runWidget_eq bareFrame]
      obtain ⟨same, silent, remembers⟩ := run_widgetText_bare nested context frame index name state
      simp only [run_bind, same]
      revert silent remembers
      generalize (widgetText nested context.bare frame index name).run.run state.bare = ran
      obtain ⟨stop | error | text, after⟩ := ran
      · intro silent remembers
        exact ⟨rfl, fun _ => silent, remembers⟩
      · intro silent remembers
        exact ⟨rfl, fun _ => silent, remembers⟩
      · intro silent remembers
        have printed : { state.resume after with output := (state.resume after).output ++ text } =
            state.resume { after with output := after.output ++ text } := by
          simp only [RunState.resume, String.append_assoc]
        exact ⟨congrArg (Prod.mk _) printed, fun failed => absurd rfl failed, remembers⟩

theorem shallow_of_ok (here : context.frame = some frame) {index : Nat} {name : String}
    {state : RunState World}
    (succeeds : ((runWidget nested context index name).run.run state).1 = .ok ()) :
    frame.depth < frame.maxDepth := by
  by_contra deep
  have tooDeep : frame.depth ≥ frame.maxDepth := Nat.le_of_not_lt deep
  rw [runWidget_eq here] at succeeds
  unfold widgetText at succeeds
  cases source : frame.widgets with
  | noLocator | noService =>
      rw [source] at succeeds
      cases succeeds
  | service content? =>
      simp only [source, if_pos tooDeep] at succeeds
      cases succeeds

theorem cause_of_ok {fuel : Nat} (here : context.frame = some frame) {index : Nat} {name : String}
    {state : RunState World}
    (succeeds : ((runWidget (runTemplate fuel) context index name).run.run state).1 = .ok ()) :
    ((runWidget (runTemplate fuel) context index name).run.run state).2.cause = state.cause := by
  have shallow := shallow_of_ok here succeeds
  have within : context.Within frame.maxDepth := by
    intro other there
    obtain rfl : frame = other := Option.some.inj (here.symm.trans there)
    exact ⟨Nat.le_of_lt shallow, rfl⟩
  have record := Record.ofWidget (Record.ofTemplate fuel) context within index name
  have nothing : firstError (record.events state) = none := by
    by_contra failed
    have stopped := record.stops state failed
    rw [succeeds] at stopped
    cases stopped with
    | told impossible => exact impossible
  rw [record.cause state, nothing, Option.or_none]

theorem causes_left {fuel : Nat} (here : context.frame = some frame) (index : Nat) (name : String)
    (first second : RunState World) :
    let ran := (runWidget (runTemplate fuel) context index name).run.run
    (ran first).1 = (ran second).1 →
      Causes.Followed (first.cause, second.cause) (ran first).2.cause (ran second).2.cause →
        ∃ left, (ran first).2.cause = first.cause.or left ∧
          (ran second).2.cause = second.cause.or left ∧ ((ran first).1 = .ok () → left = none) := by
  intro ran same followed
  by_cases succeeds : (ran first).1 = .ok ()
  · refine ⟨none, ?_, ?_, fun _ => rfl⟩
    · rw [Option.or_none]
      exact cause_of_ok here succeeds
    · rw [Option.or_none]
      exact cause_of_ok here (same.symm.trans succeeds)
  · obtain ⟨left, firstCause, secondCause⟩ := followed
    exact ⟨left, firstCause, secondCause, fun other => absurd other succeeds⟩

end Directives

/-- What surrounds a directive that is about to run: variables, and the state of the run so far. -/
structure Parent where
  layers : List Members
  globals : Members
  state : RunState Site

namespace Parent

structure Sound (parent : Parent) : Prop where
  calm : parent.state.world.Calm
  holds : parent.state.memory.Holds parent.state.world.settings.maxRange

def context (parent : Parent) (depth : Nat) (services : Services) : Context Site where
  layers := parent.layers
  globals := parent.globals
  now := parent.state.world.now
  fragments := some lookupFragment
  frame := some { siteFrame parent.state.world.settings services.source with depth := depth }

def runDirective (parent : Parent) (fuel depth : Nat) (services : Services) (index : Nat)
    (name entity : String) : Except Stop Unit × RunState Site :=
  (runNode (runTemplate fuel) (parent.context depth services) (.widget index name entity)).run.run
    parent.state

/-- The directive at a place added a text to the output and changed nothing else: the site has been
told of what went wrong, the place remembers a child, and a directive that failed leaves a cause. -/
structure LeftAlone (parent : Parent) (index : Nat) (text : String) (left : Option RenderError)
    (ran : Except Stop Unit × RunState Site) : Prop where
  rest : ran.2 = { parent.state with
    world := ran.2.world, memory := ran.2.memory, cause := parent.state.cause.or left
    output := parent.state.output ++ text }
  world : parent.state.world.Echoes ran.2.world
  memory : RemembersAt index parent.state.memory ran.2.memory
  printed : ran.1 ≠ .ok () → text = ""
  caused : ran.1 = .ok () → left = none

variable {first second : Parent}

theorem bare_context (same : second.state.world.fresh = first.state.world.fresh) (depth : Nat)
    (services : Services) :
    (second.context depth services).bare = (first.context depth services).bare := by
  have settings := Site.settings_of_fresh same
  have now : second.state.world.fresh.now = first.state.world.fresh.now := by rw [same]
  change second.state.world.now = first.state.world.now at now
  simp only [Context.bare, context, settings, now]

theorem context_respects (firstSound : first.Sound) (secondSound : second.Sound)
    (same : second.state.world.fresh = first.state.world.fresh) (depth : Nat) (services : Services) :
    (first.context depth services).bare.Respects
      (Site.Paired first.state.world second.state.world) first.state.world.settings.maxRange := by
  have respects := Site.siteContext_respects firstSound.calm secondSound.calm same.symm .nil []
    services
  refine ⟨respects.fragments, ?_⟩
  rintro _ ⟨⟩
  have frame := respects.frame _ rfl
  exact ⟨frame.range, frame.report, frame.service⟩

theorem alike_bare (firstSound : first.Sound) (secondSound : second.Sound)
    (same : second.state.world.fresh = first.state.world.fresh) :
    Alike (Site.Paired first.state.world second.state.world) first.state.world.settings.maxRange
      (first.state.cause, second.state.cause) first.state.bare second.state.bare := by
  have secondHolds := secondSound.holds
  rw [Site.settings_of_fresh same] at secondHolds
  exact ⟨⟨rfl, rfl⟩, firstSound.holds, secondHolds, ⟨none, Option.or_none.symm, Option.or_none.symm⟩,
    rfl⟩

theorem leftAlone {parent : Parent} {fuel depth : Nat} {services : Services} {index : Nat}
    {name : String} (entity : String) {bare : Except Stop Unit × RunState Site}
    (same : parent.runDirective fuel depth services index name entity =
      (bare.1, parent.state.resume bare.2))
    (silent : bare.1 ≠ .ok () → bare.2.output = "")
    (remembers : RemembersAt index parent.state.memory bare.2.memory)
    (world : parent.state.world.Echoes bare.2.world) {left : Option RenderError}
    (cause : bare.2.cause = parent.state.cause.or left) (caused : bare.1 = .ok () → left = none) :
    parent.LeftAlone index bare.2.output left
      (parent.runDirective fuel depth services index name entity) := by
  rw [same]
  refine ⟨?_, world, remembers, silent, caused⟩
  simp only [RunState.resume, cause]

end Parent

/-- A directive that runs twice, at one depth of sites with the same stores and files, comes to the
same text or the same error whatever surrounds it, and leaves what surrounds it alone. -/
theorem directive_is_isolated (first second : Parent) (firstSound : first.Sound)
    (secondSound : second.Sound) (same : second.state.world.fresh = first.state.world.fresh)
    (fuel depth : Nat) (services : Services) (index : Nat) (name entity : String) :
    let ran := first.runDirective fuel depth services index name entity
    let other := second.runDirective fuel depth services index name entity
    ran.1 = other.1 ∧ ∃ text left,
      first.LeftAlone index text left ran ∧ second.LeftAlone index text left other := by
  intro ran other
  have respects := Parent.context_respects firstSound secondSound same depth services
  have nesting : Nesting (Site.Paired first.state.world second.state.world)
      first.state.world.settings.maxRange (first.state.cause, second.state.cause) (fun _ => True)
      (runTemplate fuel) (runTemplate fuel) :=
    ⟨fun _ inner _ each _ => agree_runTemplate inner fuel each, fun _ _ _ => trivial⟩
  obtain ⟨sameResult, alike⟩ := agree_runWidget nesting respects
    (fun _ _ _ _ _ _ _ _ _ _ => trivial) index name _ _
    (Parent.alike_bare firstSound secondSound same)
  obtain ⟨firstRan, firstSilent, firstRemembers⟩ := run_runWidget_bare (runTemplate fuel)
    (first.context depth services) index name first.state
  obtain ⟨secondRan, secondSilent, secondRemembers⟩ := run_runWidget_bare (runTemplate fuel)
    (second.context depth services) index name second.state
  rw [Parent.bare_context same] at secondRan secondSilent secondRemembers
  obtain ⟨left, firstCause, secondCause, caused⟩ := causes_left rfl index name _ _ sameResult
    alike.causes
  have firstLeft := Parent.leftAlone entity firstRan firstSilent firstRemembers alike.world.1
    firstCause caused
  have secondLeft := Parent.leftAlone entity secondRan secondSilent secondRemembers alike.world.2
    secondCause (fun succeeds => caused (sameResult.trans succeeds))
  rw [alike.output] at secondLeft
  have firstResult := congrArg Prod.fst firstRan
  have secondResult := congrArg Prod.fst secondRan
  exact ⟨firstResult.trans (sameResult.trans secondResult.symm), _, left, firstLeft, secondLeft⟩

def counterSite : Site where
  stores := { widgets := { table := ⟨[{ name := "counter", content :=
    "\x7b% assign seen = 5 %\x7d\x7b% increment n %\x7d\x7b\x7b seen \x7d\x7d\x7b% break %\x7dno" }], 1⟩ } }

def bareParent : Parent where
  layers := []
  globals := []
  state := { world := counterSite, memory := .empty, cause := none }

/-- A parent within a loop, which has assigned and counted what the widget assigns and counts. -/
def busyParent : Parent where
  layers := [[("seen", .int 1)]]
  globals := [("seen", .int 2)]
  state := {
    world := counterSite.report ⟨"store", "added"⟩, memory := .empty, cause := none
    output := "n = ", assigned := [("seen", .int 3)], counters := [("n", .int 4)]
    interrupt := some .next }

theorem directive_is_isolated_counter : bareParent.Sound ∧ busyParent.Sound ∧
    busyParent.state.world.fresh = bareParent.state.world.fresh ∧
    (bareParent.runDirective 8 0 .stored 0 "counter" "x").1 =
      (busyParent.runDirective 8 0 .stored 0 "counter" "x").1 := by
  have bare : bareParent.Sound := ⟨rfl, trivial⟩
  have busy : busyParent.Sound := ⟨rfl, trivial⟩
  obtain ⟨same, _⟩ :=
    directive_is_isolated bareParent busyParent bare busy rfl 8 0 .stored 0 "counter" "x"
  exact ⟨bare, busy, rfl, same⟩

example : (busyParent.runDirective 8 0 .stored 0 "counter" "x").2.output = "n = 05" := by
  decide +kernel

end LiveViews
