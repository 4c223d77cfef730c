import LiveViews.Proofs.Liquid.Compiling
import LiveViews.Proofs.Render.Agreement

/-!
A guard on the templates that run. In a bounded template no loop over whole numbers that are written
out has more turns than the limit allows for (`loopItems_bounded`). Whatever a guard does with the
templates that it refuses, a run under it is the same if it refuses neither what widgets' contents nor
what fragments are compiled to (`agree_runGuarded`): so none that it refuses is run.
-/

namespace LiveViews

open LiveViews.Liquid

variable {World : Type}

theorem length_countUp (count : Nat) (first : Int) : (countUp count first).length = count := by
  induction count generalizing first with
  | zero => rfl
  | succ count ih => rw [countUp, List.length_cons, ih]

theorem loopItems_bounded (context : Context World) (origin : String) {limit : Nat} {first last : Int}
    (bounded : LoopSource.bounded limit (.range (.literal (.int first)) (.literal (.int last))) = true)
    (state : RunState World) : ∃ items, items.length ≤ limit ∧
      (loopItems context origin (.range (.literal (.int first)) (.literal (.int last)))).run.run state =
        (.ok items, state) := by
  refine ⟨countUp (last - first + 1).toNat first, ?_, rfl⟩
  have fits : ¬last - first + 1 > limit := by
    simpa [LoopSource.bounded, exceeds] using bounded
  rw [length_countUp]
  omega

/-- Runs templates like `runTemplate`, but `alarm` in the place of those that are refused. -/
def runGuarded (refuses : Template → Bool) (alarm : Nested World) : Nat → Nested World
  | 0 => fun _ _ => throw .endless
  | fuel + 1 => fun context template =>
    if refuses template then alarm context template
    else runBlock (runGuarded refuses alarm fuel) context template.body

theorem agree_runGuarded {relation : World → World → Prop} {limit : Nat} {earlier : Causes}
    {refuses : Template → Bool} (alarm : Nested World)
    (parsed : ∀ content template, parseView limit content = .ok template → refuses template = false)
    (fuel : Nat) {context : Context World} (respects : context.Respects relation limit)
    (fetches : context.Fetches relation fun template => refuses template = false)
    {template : Template} (runs : refuses template = false) :
    Agree relation limit earlier (runGuarded refuses alarm fuel context template)
      (runTemplate fuel context template) := by
  induction fuel generalizing context template with
  | zero => exact agree_throw _
  | succ fuel ih =>
      have nesting : Nesting relation limit earlier (fun template => refuses template = false)
          (runGuarded refuses alarm fuel) (runTemplate fuel) :=
        ⟨fun _ inner innerFetches _ innerRuns => ih inner innerFetches innerRuns, parsed⟩
      unfold runGuarded
      rw [if_neg (by simp [runs])]
      exact agree_runBlock nesting respects fetches template.body

def oversizedError (limit : Nat) (bounds : Int × Int) : RenderError :=
  .parse ⟨[.message (oversizedMessage limit bounds)]⟩

theorem runWidget_oversized (nested : Nested World) {context : Context World} {frame : Frame World}
    (here : context.frame = some frame) (shallow : frame.depth < frame.maxDepth)
    {content? : String → World → Except RenderError (Option String) × World}
    (service : frame.widgets = .service content?) (index : Nat) {name content : String}
    {state : RunState World} {world : World}
    (found : content? name state.world = (.ok (some content), world))
    (holds : state.memory.Holds frame.maxRange) {bounds : Int × Int}
    (oversized : oversizedRange? frame.maxRange content.toList = some bounds) :
    (runWidget nested context index name).run.run state =
      (.error (.failed (.complaint (oversizedError frame.maxRange bounds).message)),
        { state with
          world := world
          cause := state.cause.or (some (oversizedError frame.maxRange bounds)) }) := by
  obtain ⟨inner, _, child⟩ := childTemplate_eq holds index content
  unfold parseView at child
  rw [oversized] at child
  have text : (widgetText nested context frame index name).run.run state =
      (.ok (.error (oversizedError frame.maxRange bounds)), { state with world := world }) := by
    unfold widgetText
    rw [service]
    simp only [if_neg (Nat.not_le_of_lt shallow), run_bind, run_modifyGet, run_get, found, child]
    rfl
  unfold runWidget
  rw [here]
  simp only [run_bind, text]
  cases state.cause <;> rfl

end LiveViews
