import LiveViews.Proofs.Render.Terms

/-!
How deep templates nest. Widgets lead one level deeper, and levels are limited; fragments stay on their
level. Where every fragment is lower than the template that includes it, templates nest no deeper than
the levels and the heights together allow (`shadows_runTemplateOver`): what is put in the place of those
that would nest deeper does not matter.
-/

namespace LiveViews

open LiveViews.Liquid

variable {World : Type}

/-- Runs templates like `runTemplate`, but those that nest deeper by `deeper`. -/
def runTemplateOver (deeper : Nested World) : Nat → Nested World
  | 0 => deeper
  | levels + 1 => fun context template => runBlock (runTemplateOver deeper levels) context template.body

theorem runTemplateOver_endless (fuel : Nat) :
    runTemplateOver (fun _ _ => throw .endless) fuel = (runTemplate fuel : Nested World) := by
  induction fuel with
  | zero => rfl
  | succ fuel ih => rw [runTemplateOver, runTemplate, ih]

def Context.room (context : Context World) : Nat :=
  match context.frame with
  | none => 0
  | some frame => frame.maxDepth - frame.depth

/-- Heights of templates under which a fragment is lower than what includes it. -/
structure Falling (terms : Terms World) (source : String → World → Option String × World)
    (most : Nat) (height : Template → Nat) : Prop where
  most : ∀ template, height template ≤ most
  falls : ∀ outer inner operand scope value world text, operand ∈ outer.body.inserts →
    operand.evaluate scope = .ok value → terms.world world →
    (source value.render world).1 = some text → Template.parse text = .ok inner →
    height inner < height outer

section Bounds

variable {terms : Terms World}

theorem Terms.Admits.of_same {context inner : Context World} (admits : terms.Admits context)
    (fragments : inner.fragments = context.fragments) (frame : inner.frame = context.frame) :
    terms.Admits inner := by
  refine ⟨admits.directive, ?_, ?_, ?_, ?_⟩
  · rw [fragments]
    exact admits.fragments
  · rw [frame]
    exact admits.report
  · rw [frame]
    exact admits.service
  · rw [frame]
    exact admits.refused

theorem Terms.Admits.of_child {context inner : Context World} (admits : terms.Admits context)
    {frame : Frame World} (here : context.frame = some frame)
    (fragments : inner.fragments = context.fragments) (child : inner.frame = some frame.child) :
    terms.Admits inner := by
  refine ⟨admits.directive, ?_, ?_, ?_, ?_⟩
  · rw [fragments]
    exact admits.fragments
  · intro own known
    rw [child] at known
    cases known
    exact admits.report frame here
  · intro own content? known
    rw [child] at known
    cases known
    exact admits.service frame content? here
  · intro own content? known
    rw [child] at known
    cases known
    exact admits.refused frame content? here

/-- Beyond the levels and heights that are left, it does not matter how templates are run. -/
theorem shadows_runTemplateOver {source : String → World → Option String × World} {most : Nat}
    {height : Template → Nat} (falling : Falling terms source most height) (deeper other : Nested World)
    (levels more : Nat) {context : Context World} (admits : terms.Admits context)
    (here : context.fragments = some source) (template : Template)
    (enough : context.room * (most + 1) + height template < levels)
    (enoughMore : context.room * (most + 1) + height template < more) :
    Shadows terms Anything (runTemplateOver deeper levels context template)
      (runTemplateOver other more context template) := by
  induction levels generalizing more context template with
  | zero => exact absurd enough (Nat.not_lt_zero _)
  | succ levels ih =>
      obtain _ | more := more
      · exact absurd enoughMore (Nat.not_lt_zero _)
      refine shadows_runBlock admits template.body ⟨?insert, ?widget⟩
      case insert =>
        intro operand member scope value own world text fragment evaluated known seen answer parsed
          inner fragments frame
        have same : source = own := Option.some.inj (here.symm.trans known)
        subst same
        have lower := falling.falls template fragment operand scope value world text member evaluated
          seen answer parsed
        have room : inner.room = context.room := by rw [Context.room, frame, Context.room]
        exact ih more (admits.of_same fragments frame) (fragments.trans here) fragment
          (by rw [room]; omega) (by rw [room]; omega)
      case widget =>
        intro frame known shallow inner fragments child content
        have below : inner.room + 1 = context.room := by
          simp only [Context.room, known, child, Frame.child]
          omega
        have lowest := falling.most content
        have level : context.room * (most + 1) = inner.room * (most + 1) + (most + 1) := by
          rw [← below, Nat.succ_mul]
        exact ih more (admits.of_child known fragments child) (fragments.trans here) content
          (by omega) (by omega)

inductive RenderFailure (cause : RenderError → Prop) (deep : Prop) : RenderError → Prop
  | cause {error : RenderError} : cause error → RenderFailure cause deep error
  | liquid (error : EngineError) : RenderFailure cause deep (.liquid error)
  | task : RenderFailure cause deep .task
  | endless : deep → RenderFailure cause deep .endless

theorem renderTemplateBy_shadowed {first second : Nested World} {context : Context World}
    {template : Template}
    (shadows : Shadows terms Anything (first context template) (second context template))
    (memory : Memory) {world : World} (holds : terms.world world) :
    renderTemplateBy second context template memory none world =
        renderTemplateBy first context template memory none world ∧
      ∀ error, (renderTemplateBy first context template memory none world).result = .error error →
        RenderFailure terms.cause terms.deep error := by
  obtain ⟨same, kept⟩ := shadows { world := world, memory := memory, cause := none }
    ⟨holds, nofun⟩
  unfold renderTemplateBy
  dsimp only
  rw [same]
  refine ⟨rfl, ?_⟩
  revert kept
  generalize (first context template).run.run { world := world, memory := memory, cause := none } = ran
  obtain ⟨stop | _, final⟩ := ran
  · rintro kept _ ⟨⟩
    cases stop with
    | failed error =>
        show RenderFailure _ _ (final.cause.getD _)
        cases left : final.cause with
        | none => exact .liquid error
        | some cause => exact .cause (kept.hold.cause cause left)
    | crashed => exact .task
    | endless => exact .endless (kept.deep rfl)
  · exact fun _ => nofun

theorem shadows_runTemplate (deep : terms.deep) (fuel : Nat) {context : Context World}
    (admits : terms.Admits context) (template : Template) :
    Shadows terms Anything (runTemplate fuel context template) (runTemplate fuel context template) := by
  induction fuel generalizing context template with
  | zero => exact fun _ hold => ⟨rfl, hold, nofun, fun _ => deep⟩
  | succ fuel ih =>
      refine shadows_runBlock admits template.body ⟨?_, ?_⟩
      · intro _ _ _ _ _ _ _ fragment _ _ _ _ _ inner fragments frame
        exact ih (admits.of_same fragments frame) fragment
      · intro frame here _ inner fragments child content
        exact ih (admits.of_child here fragments child) content

end Bounds

section Stopping

variable {α β : Type} {stop : Stop} {state later : RunState World}

def Stops (stop : Stop) (part : Run World α) (state : RunState World) : Prop :=
  (part.run.run state).1 = .error stop

theorem Stops.run_eq {part : Run World α} (stops : Stops stop part state) :
    part.run.run state = (.error stop, (part.run.run state).2) :=
  Prod.ext stops rfl

theorem Stops.bind {part : Run World α} (stops : Stops stop part state) (next : α → Run World β) :
    Stops stop (part >>= next) state := by
  unfold Stops
  rw [run_bind, stops.run_eq]

theorem Stops.after {part : Run World α} {value : α} {next : α → Run World β}
    (stops : Stops stop (next value) later) (goes : part.run.run state = (.ok value, later)) :
    Stops stop (part >>= next) state := by
  unfold Stops
  rw [run_bind, goes]
  exact stops

theorem run_tracing (origin : String) (facts : Facts) {part : Run World α} {value : α}
    (goes : part.run.run state = (.ok value, later)) :
    (tracing origin part facts).run.run state = (.ok value, later) := by
  show (Except.mapError _ (part.run.run state).1, (part.run.run state).2) = _
  rw [goes]
  rfl

theorem Stops.insertion {part : Run World Unit} (breaks : stop.isBreakdown = true)
    (stops : Stops stop part { state with memory := .empty }) (origin : String) (facts : Facts) :
    Stops stop (insertion part origin facts) state := by
  have passes : Stop.passing origin facts stop = stop := by
    cases stop with
    | failed engine => cases breaks
    | crashed | endless => rfl
  unfold Stops
  rw [run_insertion, stops.run_eq]
  exact congrArg Except.error passes

theorem stopError_eq (breaks : stop.isBreakdown = true) (cause : Option RenderError) :
    stopError cause stop = stopError none stop := by
  cases stop with
  | failed engine => cases breaks
  | crashed | endless => rfl

theorem Stops.renderTemplateBy {nested : Nested World} {context : Context World}
    {template : Template} {memory : Memory} {world : World}
    (breaks : stop.isBreakdown = true)
    (stops : Stops stop (nested context template) { world, memory, cause := none }) :
    (renderTemplateBy nested context template memory none world).result =
      .error (stopError none stop) := by
  unfold LiveViews.renderTemplateBy
  dsimp only
  rw [stops.run_eq]
  exact congrArg Except.error (stopError_eq breaks _)

/-- The fragment that a block includes before anything else, but for plain text. -/
def Liquid.Block.opening? : Block → Option String
  | .step (.text _) rest => rest.opening?
  | .step (.insert (.literal (.text name)) []) _ => some name
  | _ => none

theorem Liquid.Block.mem_inserts_of_opening {body : Block} {name : String}
    (opening : body.opening? = some name) : .literal (.text name) ∈ body.inserts := by
  fun_induction Block.opening? body with
  | case1 content rest ih => exact List.mem_append_right _ (ih opening)
  | case2 own rest =>
      obtain rfl : own = name := Option.some.inj opening
      exact List.mem_append_left _ (List.mem_singleton_self _)
  | case3 => cases opening

variable {nested : Nested World} {context : Context World}
  {source : String → World → Option String × World}

theorem run_fetchFragment (here : context.fragments = some source) {name text : String}
    {inner : Template} (looked : (source name state.world).1 = some text)
    (parsed : Template.parse text = .ok inner) : (fetchFragment context name).run.run state =
      (.ok inner, { state with world := (source name state.world).2 }) := by
  unfold fetchFragment
  rw [here]
  dsimp only
  rw [run_bind, run_modifyGet]
  simp only [looked, parsed]
  rfl

theorem stops_runInsert (here : context.fragments = some source) {name text : String}
    {inner : Template} (looked : (source name state.world).1 = some text)
    (parsed : Template.parse text = .ok inner) (breaks : stop.isBreakdown = true)
    (stops : Stops stop (nested (context.within []) inner)
      { state with world := (source name state.world).2, memory := .empty }) :
    Stops stop (runInsert nested context (.literal (.text name)) []) state := by
  refine Stops.after ?_ rfl
  refine Stops.after ?_ rfl
  refine Stops.after ?_ rfl
  refine Stops.after ?_ (run_tracing _ _ (run_fetchFragment here looked parsed))
  exact stops.insertion breaks _ _

theorem stops_runBlock (here : context.fragments = some source) {name text : String} {world : World}
    {inner : Template} (looked : (source name world).1 = some text)
    (parsed : Template.parse text = .ok inner) (breaks : stop.isBreakdown = true)
    (stops : ∀ state : RunState World, state.world = (source name world).2 →
      state.interrupt = none → Stops stop (nested (context.within []) inner) state)
    {body : Block} (opening : body.opening? = some name) (same : state.world = world)
    (idle : state.interrupt = none) : Stops stop (runBlock nested context body) state := by
  fun_induction Block.opening? body generalizing state with
  | case1 content rest ih =>
      have printed : (runNode nested context (.text content)).run.run state =
          (.ok (), { state with output := state.output ++ content }) := rfl
      refine Stops.after (Stops.after ?_ rfl) printed
      rw [if_pos (by simp [idle])]
      exact ih opening same idle
  | case2 own rest =>
      obtain rfl : own = name := Option.some.inj opening
      subst same
      exact (stops_runInsert here looked parsed breaks (stops _ rfl idle)).bind _
  | case3 => cases opening

end Stopping

end LiveViews
