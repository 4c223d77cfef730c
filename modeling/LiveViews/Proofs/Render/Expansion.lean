import LiveViews.Proofs.Render.Agreement
import LiveViews.Proofs.Render.Record

/-!
Expansion of widgets. A view of literal text and widget directives renders to what it expands to when
each directive is replaced in place, level below level, as far down as the limit allows; cycles end
there, whatever is remembered (`runTemplate_ends`).
-/

namespace LiveViews

open LiveViews.Liquid

def Liquid.Block.isPlain : Block → Bool
  | .done => true
  | .step (.text _) rest => rest.isPlain
  | .step (.widget _ _ _) rest => rest.isPlain
  | .step _ _ => false

def expandBlock (find : String → Except RenderError String) : Block → Except RenderError String
  | .done => .ok ""
  | .step (.text content) rest => (expandBlock find rest).map fun later => content ++ later
  | .step (.widget _ name _) rest => do
    let text ← find name
    let later ← expandBlock find rest
    return text ++ later
  | .step _ rest => expandBlock find rest

section Specification

variable (widgets : String → Option String) (range limit : Nat)

/-- The text of a directive below which there is room for so many levels of others. -/
def expandWidget : Nat → String → Except RenderError String
  | 0, name => .error (.recursionLimit name limit)
  | room + 1, name =>
    match widgets name with
    | none => .error (.missingEntity "widget" name)
    | some content =>
      match parseView range content with
      | .error (.refused error) => .error (.parse error)
      | .error .crashed => .error .task
      | .ok template => expandBlock (expandWidget room) template.body

def expansion (block : Block) : Except RenderError String :=
  expandBlock (expandWidget widgets range limit limit) block

def PlainBodies : Prop :=
  ∀ name content template, widgets name = some content → parseView range content = .ok template →
    template.body.isPlain = true

end Specification

variable {World : Type}

structure Tidy (calm : World → Prop) (range : Nat) (state : RunState World) : Prop where
  world : calm state.world
  memory : state.memory.Holds range
  cause : state.cause = none
  interrupt : state.interrupt = none

/-- A run that comes to what is expected of it, behind what was printed before. -/
inductive Ends (calm : World → Prop) (range : Nat) (printed : String) :
    Except RenderError String → Except Stop Unit × RunState World → Prop
  | done {text : String} {final : RunState World} :
      final.output = printed ++ text → Tidy calm range final →
      Ends calm range printed (.ok text) (.ok (), final)
  | failed {error : RenderError} {engine : EngineError} {final : RunState World} :
      final.cause = some error → Ends calm range printed (.error error) (.error (.failed engine), final)
  | crashed {final : RunState World} :
      final.cause = none → Ends calm range printed (.error .task) (.error .crashed, final)

structure Serves (widgets : String → Option String) (calm : World → Prop) (range limit depth : Nat)
    (frame : Frame World) (content? : String → World → Except RenderError (Option String) × World) :
    Prop where
  depth : frame.depth = depth
  limit : frame.maxDepth = limit
  range : frame.maxRange = range
  service : frame.widgets = .service content?
  answers : ∀ name world, calm world → content? name world = (.ok (widgets name), world)

section Runs

variable {widgets : String → Option String} {calm : World → Prop} {range limit depth : Nat}
  {nested : Nested World} {context : Context World} {frame : Frame World}
  {content? : String → World → Except RenderError (Option String) × World}

theorem Serves.child (serves : Serves widgets calm range limit depth frame content?) :
    Serves widgets calm range limit (depth + 1) frame.child content? :=
  ⟨congrArg (· + 1) serves.depth, serves.limit, serves.range, serves.service, serves.answers⟩

theorem run_widgetText (serves : Serves widgets calm range limit depth frame content?)
    (index : Nat) (name : String) {state : RunState World} (world : calm state.world) :
    (widgetText nested context frame index name).run.run state =
      if limit ≤ depth then
        (.ok (.error (.recursionLimit name limit)), { state with
          world := frame.report ⟨"render", (RenderError.recursionLimit name limit).message⟩ state.world })
      else match widgets name with
        | none => (.ok (.error (.missingEntity "widget" name)), state)
        | some content =>
          match childTemplate range state.memory index content with
          | .error (.refused error) => (.ok (.error (.parse error)), state)
          | .error .crashed => (.error .crashed, state)
          | .ok child => (runChild nested context frame index child).run.run state := by
  unfold widgetText
  rw [serves.service, serves.depth, serves.limit, serves.range]
  dsimp only
  split
  · rfl
  · have answer := serves.answers name state.world world
    rw [run_bind, run_modifyGet]
    dsimp only
    rw [answer]
    dsimp only
    cases widgets name with
    | none => rfl
    | some content =>
        rw [run_bind, run_get]
        dsimp only
        rcases childTemplate range state.memory index content with (error | _) | child <;> rfl

def NestedEnds (widgets : String → Option String) (calm : World → Prop) (range limit depth room : Nat)
    (nested : Nested World) : Prop :=
  ∀ context frame content?, context.frame = some frame →
    Serves widgets calm range limit depth frame content? → ∀ template : Template,
    template.body.isPlain = true → ∀ state, Tidy calm range state →
    Ends calm range state.output (expandBlock (expandWidget widgets range limit room) template.body)
      ((nested context template).run.run state)

theorem Ends.behind {printed text : String} {expected : Except RenderError String}
    {ran : Except Stop Unit × RunState World} (later : Ends calm range (printed ++ text) expected ran) :
    Ends calm range printed (expected.map (text ++ ·)) ran := by
  cases later with
  | done output tidy =>
      rw [String.append_assoc] at output
      exact .done output tidy
  | failed cause => exact .failed cause
  | crashed cause => exact .crashed cause

theorem runBlock_step {first : Node} {rest : Block} {state after : RunState World}
    (ran : (runNode nested context first).run.run state = (.ok (), after))
    (going : after.interrupt = none) : (runBlock nested context (.step first rest)).run.run state =
      (runBlock nested context rest).run.run after := by
  rw [runBlock, run_bind, ran]
  dsimp only
  rw [run_bind, run_get]
  dsimp only
  rw [going]
  rfl

theorem runBlock_stop {first : Node} {rest : Block} {state after : RunState World} {stop : Stop}
    (ran : (runNode nested context first).run.run state = (.error stop, after)) :
    (runBlock nested context (.step first rest)).run.run state = (.error stop, after) := by
  rw [runBlock, run_bind, ran]

variable {room : Nat} (bodies : PlainBodies widgets range) (sum : depth + room = limit)
  (here : context.frame = some frame)
  (serves : Serves widgets calm range limit depth frame content?)
  (nestedEnds : ∀ below, room = below + 1 →
    NestedEnds widgets calm range limit (depth + 1) below nested)

include bodies sum here serves nestedEnds

theorem runWidget_ends (index : Nat) (name : String) {state : RunState World}
    (tidy : Tidy calm range state) :
    Ends calm range state.output (expandWidget widgets range limit room name)
      ((runWidget nested context index name).run.run state) := by
  have first : ∀ error, (state.cause <|> some error) = some error := by
    intro error
    rw [tidy.cause]
    rfl
  unfold runWidget
  rw [here]
  dsimp only
  rw [run_bind, run_widgetText serves index name tidy.world]
  cases room with
  | zero =>
      have deep : limit ≤ depth := by omega
      rw [if_pos deep]
      exact .failed (first _)
  | succ below =>
      have shallow : ¬limit ≤ depth := by omega
      rw [if_neg shallow]
      unfold expandWidget
      cases found : widgets name with
      | none => exact .failed (first _)
      | some content =>
          obtain ⟨inner, holds, child⟩ := childTemplate_eq tidy.memory index content
          dsimp only
          rw [child]
          cases parsed : parseView range content with
          | error stop =>
              cases stop with
              | refused error => exact .failed (first _)
              | crashed => exact .crashed tidy.cause
          | ok template =>
              have begins : Tidy calm range (insideState ⟨content, template, inner⟩ state) :=
                ⟨tidy.world, holds, tidy.cause, rfl⟩
              have ended := nestedEnds below rfl (insideContext context frame) frame.child content?
                rfl serves.child template (bodies name content template found parsed) _ begins
              dsimp only [Except.map]
              rw [run_runChild]
              dsimp only
              generalize (nested (insideContext context frame) template).run.run
                (insideState ⟨content, template, inner⟩ state) = ran at ended ⊢
              generalize expandBlock (expandWidget widgets range limit below) template.body =
                expected at ended ⊢
              cases ended with
              | @done text final output tidyAfter =>
                  have entry : Remembered.Holds range ⟨content, template, final.memory⟩ :=
                    ⟨parsed, tidyAfter.memory⟩
                  refine .done ?_ ⟨tidyAfter.world, tidy.memory.set index entry, tidyAfter.cause,
                    tidy.interrupt⟩
                  show state.output ++ final.output = state.output ++ text
                  rw [output]
                  exact congrArg (state.output ++ ·) (String.empty_append)
              | @failed error engine final cause =>
                  refine .failed ?_
                  show (final.cause <|> some (RenderError.liquid engine)) = some error
                  rw [cause]
                  rfl
              | crashed cause => exact .crashed cause

theorem runBlock_ends (block : Block) (plain : block.isPlain = true) {state : RunState World}
    (tidy : Tidy calm range state) :
    Ends calm range state.output (expandBlock (expandWidget widgets range limit room) block)
      ((runBlock nested context block).run.run state) := by
  match block with
  | .done => exact .done (String.append_empty).symm tidy
  | .step (.text content) rest =>
      have printed : (runNode nested context (.text content)).run.run state =
          (.ok (), { state with output := state.output ++ content }) := rfl
      have tidyAfter : Tidy calm range { state with output := state.output ++ content } :=
        ⟨tidy.world, tidy.memory, tidy.cause, tidy.interrupt⟩
      rw [runBlock_step printed tidyAfter.interrupt]
      exact (runBlock_ends rest plain tidyAfter).behind
  | .step (.widget index name entity) rest =>
      have ended := runWidget_ends bodies sum here serves nestedEnds index name tidy
      show Ends calm range state.output ((expandWidget widgets range limit room name).bind fun text =>
        (expandBlock (expandWidget widgets range limit room) rest).map (text ++ ·)) _
      generalize expandWidget widgets range limit room name = expected at ended ⊢
      generalize ran : (runWidget nested context index name).run.run state = answer at ended
      have node : (runNode nested context (.widget index name entity)).run.run state = answer := ran
      cases ended with
      | done output tidyAfter =>
          have later := runBlock_ends rest plain tidyAfter
          rw [output] at later
          rw [runBlock_step node tidyAfter.interrupt]
          exact later.behind
      | failed cause =>
          rw [runBlock_stop node]
          exact .failed cause
      | crashed cause =>
          rw [runBlock_stop node]
          exact .crashed cause

omit here serves nestedEnds in
theorem runTemplate_ends (fuel : Nat) (enough : room < fuel) :
    NestedEnds widgets calm range limit depth room (runTemplate fuel) := by
  -- On the room that is left: a widget's text has one level less below it.
  induction room generalizing depth fuel with
  | zero =>
      intro context frame content? here serves template plain state tidy
      obtain ⟨less, rfl⟩ : ∃ less, fuel = less + 1 := ⟨fuel - 1, by omega⟩
      refine runBlock_ends bodies sum here serves (fun below same => ?_) template.body plain tidy
      cases same
  | succ room ih =>
      intro context frame content? here serves template plain state tidy
      obtain ⟨less, rfl⟩ : ∃ less, fuel = less + 1 := ⟨fuel - 1, by omega⟩
      refine runBlock_ends bodies sum here serves (fun below same => ?_) template.body plain tidy
      obtain rfl : room = below := by omega
      exact ih (by omega) less (by omega)

end Runs

end LiveViews
