import LiveViews.Proofs.Render.Record

/-!
Runs that agree. What widget directives remember only saves work: two runs of a template on worlds
that are alike and with memories that hold true give the same result, and leave worlds that are alike
(`agree_runTemplate`). With the same world on both sides this says what a run leaves untouched. The
two runs need not take the same way with templates that neither of them comes to (`Nesting`).
-/

namespace LiveViews

open LiveViews.Liquid

/-- Every remembered template is the one its content compiles to. -/
def Memory.Holds (limit : Nat) : Memory → Prop
  | .empty => True
  | .remember _ content template inner rest =>
    parseView limit content = .ok template ∧ inner.Holds limit ∧ rest.Holds limit

structure Remembered.Holds (limit : Nat) (entry : Remembered) : Prop where
  compiled : parseView limit entry.content = .ok entry.template
  inner : entry.inner.Holds limit

theorem Memory.Holds.get? {limit : Nat} {memory : Memory} (holds : memory.Holds limit)
    {index : Nat} {entry : Remembered} (found : memory.get? index = some entry) :
    entry.Holds limit := by
  induction memory with
  | empty => simp [Memory.get?] at found
  | remember own content template inner rest _ ih =>
      obtain ⟨compiled, innerHolds, restHolds⟩ := holds
      by_cases same : own = index
      · simp only [Memory.get?, same, if_true, Option.some.injEq] at found
        subst found
        exact ⟨compiled, innerHolds⟩
      · simp only [Memory.get?, same, if_false] at found
        exact ih restHolds found

theorem Memory.Holds.set {limit : Nat} {memory : Memory} (holds : memory.Holds limit)
    (index : Nat) {entry : Remembered} (entryHolds : entry.Holds limit) :
    (memory.set index entry).Holds limit := by
  induction memory with
  | empty => exact ⟨entryHolds.compiled, entryHolds.inner, trivial⟩
  | remember own content template inner rest _ ih =>
      obtain ⟨compiled, innerHolds, restHolds⟩ := holds
      unfold Memory.set
      split
      · exact ⟨entryHolds.compiled, entryHolds.inner, restHolds⟩
      · exact ⟨compiled, innerHolds, ih restHolds⟩

theorem childTemplate_eq {limit : Nat} {memory : Memory} (holds : memory.Holds limit) (index : Nat)
    (content : String) : ∃ inner : Memory, inner.Holds limit ∧
      childTemplate limit memory index content =
        (parseView limit content).map fun template => ⟨content, template, inner⟩ := by
  unfold childTemplate
  cases found : (memory.get? index).filter fun entry => entry.content = content with
  | none => exact ⟨.empty, trivial, rfl⟩
  | some entry =>
      obtain ⟨remembered, same⟩ := Option.filter_eq_some_iff.mp found
      have entryHolds := holds.get? remembered
      have compiled := entryHolds.compiled
      rw [of_decide_eq_true same] at compiled
      refine ⟨entry.inner, entryHolds.inner, ?_⟩
      rw [compiled, ← of_decide_eq_true same]
      rfl

variable {World : Type}

abbrev Causes : Type :=
  Option RenderError × Option RenderError

def Causes.Followed (earlier : Causes) (first second : Option RenderError) : Prop :=
  ∃ left : Option RenderError, first = earlier.1.or left ∧ second = earlier.2.or left

theorem Causes.Followed.leave {earlier : Causes} {first second : Option RenderError}
    (followed : earlier.Followed first second) (error : RenderError) :
    earlier.Followed (first <|> some error) (second <|> some error) := by
  obtain ⟨left, rfl, rfl⟩ := followed
  have leaves : ∀ cause : Option RenderError,
      (cause.or left <|> some error) = cause.or (left.or (some error)) := by
    intro cause
    rw [← Option.or_assoc]
    exact Option.orElse_eq_or
  exact ⟨left.or (some error), leaves _, leaves _⟩

/-- States that differ in nothing but alike worlds, memories that hold true and earlier causes. -/
structure Alike (relation : World → World → Prop) (limit : Nat) (earlier : Causes)
    (first second : RunState World) : Prop where
  world : relation first.world second.world
  firstHolds : first.memory.Holds limit
  secondHolds : second.memory.Holds limit
  causes : earlier.Followed first.cause second.cause
  same : second =
    { first with world := second.world, memory := second.memory, cause := second.cause }

theorem Alike.output {relation : World → World → Prop} {limit : Nat} {earlier : Causes}
    {first second : RunState World} (alike : Alike relation limit earlier first second) :
    second.output = first.output := by
  rw [alike.same]

/-- From states that are alike both runs come to the same result, and to states that are alike. -/
def Agree {α : Type} (relation : World → World → Prop) (limit : Nat) (earlier : Causes)
    (first second : Run World α) : Prop :=
  ∀ start other, Alike relation limit earlier start other →
    (first.run.run start).1 = (second.run.run other).1 ∧
      Alike relation limit earlier (first.run.run start).2 (second.run.run other).2

structure Frame.Respects (relation : World → World → Prop) (limit : Nat) (frame : Frame World) :
    Prop where
  range : frame.maxRange = limit
  report : ∀ line first second, relation first second →
    relation (frame.report line first) (frame.report line second)
  service : ∀ content?, frame.widgets = .service content? → ∀ name first second,
    relation first second → (content? name first).1 = (content? name second).1 ∧
      relation (content? name first).2 (content? name second).2

structure Context.Respects (relation : World → World → Prop) (limit : Nat)
    (context : Context World) : Prop where
  fragments : ∀ source, context.fragments = some source → ∀ name first second,
    relation first second → (source name first).1 = (source name second).1 ∧
      relation (source name first).2 (source name second).2
  frame : ∀ frame, context.frame = some frame → frame.Respects relation limit

section Steps

variable {relation : World → World → Prop} {limit : Nat} {earlier : Causes} {α β : Type}

theorem agree_pure (value : α) : Agree relation limit earlier (pure value) (pure value) :=
  fun _ _ alike => ⟨rfl, alike⟩

theorem agree_throw (stop : Stop) :
    Agree relation limit earlier (throw stop : Run World α) (throw stop) :=
  fun _ _ alike => ⟨rfl, alike⟩

theorem agree_bind_returned {first second : Run World α} {next after : α → Run World β}
    (begin : Agree relation limit earlier first second)
    (goOn : ∀ value start other, Alike relation limit earlier start other →
      (first.run.run start).1 = .ok value → Agree relation limit earlier (next value) (after value)) :
    Agree relation limit earlier (first >>= next) (second >>= after) := by
  intro start other alike
  have returned := fun value => goOn value start other alike
  obtain ⟨same, alikeNext⟩ := begin start other alike
  rw [run_bind, run_bind]
  revert same alikeNext returned
  rcases first.run.run start with ⟨result, final⟩
  rcases second.run.run other with ⟨otherResult, otherFinal⟩
  rintro returned rfl alikeNext
  cases result with
  | ok value => exact returned value rfl _ _ alikeNext
  | error stop => exact ⟨rfl, alikeNext⟩

theorem agree_bind {first second : Run World α} {next after : α → Run World β}
    (begin : Agree relation limit earlier first second)
    (goOn : ∀ value, Agree relation limit earlier (next value) (after value)) :
    Agree relation limit earlier (first >>= next) (second >>= after) :=
  agree_bind_returned begin fun value _ _ _ _ => goOn value

theorem agree_get {next after : RunState World → Run World α}
    (goOn : ∀ start other, Alike relation limit earlier start other →
      Agree relation limit earlier (next start) (after other)) :
    Agree relation limit earlier (get >>= next) (get >>= after) :=
  fun start other alike => goOn start other alike start other alike

theorem agree_modifyGet {first second : RunState World → α × RunState World}
    (step : ∀ start other, Alike relation limit earlier start other →
      (first start).1 = (second other).1 ∧
        Alike relation limit earlier (first start).2 (second other).2) :
    Agree relation limit earlier (modifyGet first) (modifyGet second) := by
  intro start other alike
  obtain ⟨same, alikeNext⟩ := step start other alike
  exact ⟨congrArg Except.ok same, alikeNext⟩

theorem agree_modify {first second : RunState World → RunState World}
    (step : ∀ start other, Alike relation limit earlier start other →
      Alike relation limit earlier (first start) (second other)) :
    Agree relation limit earlier (modify first) (modify second) :=
  fun start other alike => ⟨rfl, step start other alike⟩

theorem agree_set {first second : RunState World} (alike : Alike relation limit earlier first second) :
    Agree relation limit earlier (set first) (set second) :=
  fun _ _ _ => ⟨rfl, alike⟩

theorem agree_ite {condition : Prop} [Decidable condition] {first second third fourth : Run World α}
    (holds : Agree relation limit earlier first second)
    (fails : Agree relation limit earlier third fourth) :
    Agree relation limit earlier (if condition then first else third)
      (if condition then second else fourth) := by
  split
  · exact holds
  · exact fails

theorem agree_lift {result other : Except Stop α} (same : result = other) :
    Agree relation limit earlier (lift result : Run World α) (lift other) := by
  subst same
  cases result with
  | ok value => exact agree_pure value
  | error stop => exact agree_throw stop

theorem agree_liftEngine (result : Except EngineError α) :
    Agree relation limit earlier (liftEngine result : Run World α) (liftEngine result) :=
  agree_lift rfl

theorem agree_fail (error : EngineError) :
    Agree relation limit earlier (fail error : Run World α) (fail error) :=
  agree_throw (.failed error)

theorem agree_tracing (origin : String) (facts : Facts) {first second : Run World α}
    (part : Agree relation limit earlier first second) :
    Agree relation limit earlier (tracing origin first facts) (tracing origin second facts) := by
  intro start other alike
  obtain ⟨same, alikeNext⟩ := part start other alike
  exact ⟨congrArg (Except.mapError (Stop.passing origin facts)) same, alikeNext⟩

theorem agree_change (change : RunState World → RunState World)
    (blind : ∀ (state : RunState World) world memory cause,
      change { state with world := world, memory := memory, cause := cause } =
        { change state with world := world, memory := memory, cause := cause }) :
    Agree relation limit earlier (modify change) (modify change) := by
  refine agree_modify fun start other alike => ?_
  have moved := blind start start.world start.memory start.cause
  have movedOther := blind start other.world other.memory other.cause
  rw [← alike.same] at movedOther
  constructor
  · rw [movedOther, moved]
    exact alike.world
  · rw [moved]
    exact alike.firstHolds
  · rw [movedOther]
    exact alike.secondHolds
  · rw [movedOther, moved]
    exact alike.causes
  · rw [movedOther]

end Steps

section Statements

variable {relation : World → World → Prop} {limit : Nat} {earlier : Causes}

theorem agree_print (text : String) :
    Agree relation limit earlier (print text : Run World Unit) (print text) :=
  agree_change _ fun _ _ _ _ => rfl

theorem agree_assignGlobal (name : String) (value : Value) :
    Agree relation limit earlier (assignGlobal name value : Run World Unit) (assignGlobal name value) :=
  agree_change _ fun _ _ _ _ => rfl

theorem agree_scope (context : Context World) :
    Agree relation limit earlier (scope context) (scope context) := by
  refine agree_get fun start other alike => ?_
  rw [alike.same]
  exact agree_pure _

theorem agree_evaluate (context : Context World) (operand : Operand) :
    Agree relation limit earlier (evaluate context operand) (evaluate context operand) :=
  agree_bind (agree_scope context) fun _ => agree_liftEngine _

theorem agree_evaluateChain (context : Context World) (chain : FilterChain) :
    Agree relation limit earlier (evaluateChain context chain) (evaluateChain context chain) :=
  agree_bind (agree_scope context) fun _ => agree_lift rfl

theorem agree_captured {first second : Run World Unit}
    (body : Agree relation limit earlier first second) :
    Agree relation limit earlier (captured first) (captured second) := by
  refine agree_get fun start other alike => ?_
  rw [alike.same]
  refine agree_bind (agree_change _ fun _ _ _ _ => rfl) fun _ => agree_bind body fun _ => ?_
  refine agree_get fun start other alike => ?_
  rw [alike.same]
  exact agree_bind (agree_change _ fun _ _ _ _ => rfl) fun _ => agree_pure _

theorem agree_boundOf (context : Context World) (name : String) (operand : Operand) :
    Agree relation limit earlier (boundOf context name operand) (boundOf context name operand) :=
  agree_bind (agree_evaluate context operand) fun _ => agree_liftEngine _

theorem agree_loopItems (context : Context World) (origin : String) (source : LoopSource) :
    Agree relation limit earlier (loopItems context origin source)
      (loopItems context origin source) := by
  cases source with
  | collection operand =>
      refine agree_bind (agree_tracing _ _ (agree_evaluate context operand)) fun value => ?_
      cases value with
      | array items => exact agree_pure _
      | object members => exact agree_pure _
      | nil => exact agree_pure _
      | state _ => exact agree_pure _
      | _ => exact agree_fail _
  | range first last =>
      refine agree_tracing _ _ (agree_bind (agree_boundOf context _ first) fun _ => ?_)
      exact agree_bind (agree_boundOf context _ last) fun _ => agree_pure _

theorem agree_attributeOf (context : Context World) (operand : Option Operand) :
    Agree relation limit earlier (attributeOf context operand) (attributeOf context operand) := by
  cases operand with
  | none => exact agree_pure _
  | some operand =>
      refine agree_bind (agree_evaluate context operand) fun _ => ?_
      exact agree_bind (agree_liftEngine _) fun _ => agree_pure _

theorem agree_takeInterrupt :
    Agree relation limit earlier (takeInterrupt : Run World (Option Interrupt)) takeInterrupt := by
  refine agree_modifyGet fun start other alike => ?_
  rw [alike.same]
  exact ⟨rfl, alike.world, alike.firstHolds, alike.secondHolds, alike.causes, rfl⟩

theorem agree_eachTurn {first second : Nat → Value → Run World Unit}
    (body : ∀ index item, Agree relation limit earlier (first index item) (second index item))
    (index : Nat) (items : List Value) :
    Agree relation limit earlier (eachTurn first index items) (eachTurn second index items) := by
  induction items generalizing index with
  | nil => exact agree_pure _
  | cons item rest ih =>
      refine agree_bind (body index item) fun _ => agree_bind agree_takeInterrupt fun taken => ?_
      match taken with
      | some .leave => exact agree_pure _
      | some .next => exact ih (index + 1)
      | none => exact ih (index + 1)

theorem agree_eachCell {first second : Nat → Value → Nat → Bool → Run World Unit}
    (body : ∀ index item column last,
      Agree relation limit earlier (first index item column last) (second index item column last))
    (columns length index : Nat) (items : List Value) :
    Agree relation limit earlier (eachCell columns length first index items)
      (eachCell columns length second index items) := by
  induction items generalizing index with
  | nil => exact agree_pure _
  | cons item rest ih =>
      have close : ∀ last : Bool, Agree relation limit earlier
          (if last then do print "</tr>"; eachCell columns length first (index + 1) rest
            else eachCell columns length first (index + 1) rest)
          (if last then do print "</tr>"; eachCell columns length second (index + 1) rest
            else eachCell columns length second (index + 1) rest) := fun last =>
        agree_ite (agree_bind (agree_print _) fun _ => ih (index + 1)) (ih (index + 1))
      have cell : Agree relation limit earlier _ _ := agree_bind
        (agree_print ("<td class=\"col" ++ toString (index % columns + 1) ++ "\">")) fun _ =>
        agree_bind (body index item (index % columns)
          (index % columns + 1 = columns || index + 1 = length)) fun _ =>
        agree_bind (agree_print "</td>") fun _ =>
        close (index % columns + 1 = columns || index + 1 = length)
      exact agree_ite (agree_bind (agree_print _) fun _ => cell) cell

theorem agree_cycleOperand (group : String) (values : List Operand) :
    Agree relation limit earlier (cycleOperand group values : Run World Operand)
      (cycleOperand group values) := by
  refine agree_bind ?_ fun turn => ?_
  · refine agree_get fun start other alike => ?_
    rw [alike.same]
    refine agree_ite (agree_throw _) ?_
    exact agree_bind (agree_change _ fun _ _ _ _ => rfl) fun _ => agree_pure _
  · cases values[turn]? with
    | none => exact agree_fail _
    | some operand => exact agree_pure operand

theorem agree_count (name : String) (before after : Int) :
    Agree relation limit earlier (count name before after : Run World Unit)
      (count name before after) := by
  refine agree_get fun start other alike => ?_
  rw [alike.same]
  exact agree_bind (agree_print _) fun _ => agree_change _ fun _ _ _ _ => rfl

theorem agree_failDirective (error : RenderError) :
    Agree relation limit earlier (failDirective error : Run World Unit) (failDirective error) := by
  refine agree_bind (agree_modify fun start other alike => ?_) fun _ => agree_fail _
  refine ⟨alike.world, alike.firstHolds, alike.secondHolds, alike.causes.leave error, ?_⟩
  rw [alike.same]

end Statements

section Nesting

variable {relation : World → World → Prop} {limit : Nat} {earlier : Causes}

theorem Context.Respects.within {context : Context World}
    (respects : context.Respects relation limit) (layer : Members) :
    (context.within layer).Respects relation limit :=
  ⟨respects.fragments, respects.frame⟩

theorem Frame.Respects.child {frame : Frame World} (respects : frame.Respects relation limit) :
    frame.child.Respects relation limit :=
  ⟨respects.range, respects.report, respects.service⟩

theorem agree_fetchFragment {context : Context World} (respects : context.Respects relation limit)
    (name : String) :
    Agree relation limit earlier (fetchFragment context name) (fetchFragment context name) := by
  unfold fetchFragment
  cases found : context.fragments with
  | none => exact agree_fail _
  | some source =>
      refine agree_bind (agree_modifyGet fun start other alike => ?_) fun text? => ?_
      · obtain ⟨same, world⟩ := respects.fragments source found name _ _ alike.world
        refine ⟨same, world, alike.firstHolds, alike.secondHolds, alike.causes, ?_⟩
        rw [alike.same]
      · cases text? with
        | none => exact agree_fail _
        | some text =>
            cases parsed : Template.parse text with
            | ok template => simpa only [parsed] using agree_pure template
            | error stop =>
                cases stop with
                | refused error => simpa only [parsed] using agree_fail error
                | crashed => simpa only [parsed] using agree_throw Stop.crashed

def Context.Fetches (relation : World → World → Prop) (runs : Template → Prop)
    (context : Context World) : Prop :=
  ∀ source, context.fragments = some source → ∀ name first second, relation first second →
    ∀ text template, (source name first).1 = some text → Template.parse text = .ok template →
      runs template

theorem parse_of_fetchFragment {context : Context World} {name : String} {state : RunState World}
    {template : Template}
    (fetched : ((fetchFragment context name).run.run state).1 = .ok template) :
    ∃ source text, context.fragments = some source ∧ (source name state.world).1 = some text ∧
      Template.parse text = .ok template := by
  unfold fetchFragment at fetched
  cases found : context.fragments with
  | none =>
      rw [found] at fetched
      cases fetched
  | some source =>
      simp only [found, run_bind, run_modifyGet] at fetched
      cases answer : (source name state.world).1 with
      | none =>
          rw [answer] at fetched
          cases fetched
      | some text =>
          simp only [answer] at fetched
          cases parsed : Template.parse text with
          | error stop =>
              rw [parsed] at fetched
              cases stop <;> cases fetched
          | ok compiled =>
              rw [parsed] at fetched
              cases fetched
              exact ⟨source, text, rfl, answer, parsed⟩

theorem returned_of_tracing {α : Type} {origin : String} {facts : Facts} {part : Run World α}
    {state : RunState World} {value : α}
    (returned : ((tracing origin part facts).run.run state).1 = .ok value) :
    (part.run.run state).1 = .ok value := by
  change Except.mapError _ (part.run.run state).1 = _ at returned
  generalize (part.run.run state).1 = result at returned ⊢
  cases result with
  | ok known => exact returned
  | error stop => cases returned

/-- Two ways to run a template that agree on all that may run: the contents of widgets, and what
fragments are compiled to. -/
structure Nesting (relation : World → World → Prop) (limit : Nat) (earlier : Causes)
    (runs : Template → Prop) (nested other : Nested World) : Prop where
  agree : ∀ context : Context World, context.Respects relation limit →
    context.Fetches relation runs → ∀ template, runs template →
      Agree relation limit earlier (nested context template) (other context template)
  parsed : ∀ content template, parseView limit content = .ok template → runs template

variable {runs : Template → Prop} {nested other : Nested World} {context : Context World}

theorem agree_runInsert (nesting : Nesting relation limit earlier runs nested other)
    (respects : context.Respects relation limit) (fetches : context.Fetches relation runs)
    (fragment : Operand) (arguments : List (String × Operand)) :
    Agree relation limit earlier (runInsert nested context fragment arguments)
      (runInsert other context fragment arguments) := by
  refine agree_bind (agree_evaluate context fragment) fun name => ?_
  refine agree_ite (agree_fail _) ?_
  refine agree_bind (agree_scope context) fun scope => ?_
  refine agree_bind (agree_liftEngine _) fun layer => ?_
  refine agree_bind_returned (agree_tracing _ _ (agree_fetchFragment respects _))
    fun template start known alike returned => ?_
  have compiled : runs template := by
    obtain ⟨source, text, here, answer, parsed⟩ :=
      parse_of_fetchFragment (returned_of_tracing returned)
    exact fetches source here _ _ _ alike.world text _ answer parsed
  refine agree_get fun start other alike => ?_
  have inside : Alike relation limit earlier { start with memory := .empty }
      { other with memory := .empty } := by
    refine ⟨alike.world, trivial, trivial, alike.causes, ?_⟩
    rw [alike.same]
  obtain ⟨same, final⟩ := nesting.agree _ (respects.within layer) fetches template compiled _ _
    inside
  have restored := congrArg (fun state : RunState World => { state with memory := other.memory })
    final.same
  refine agree_bind (agree_set ⟨final.world, alike.firstHolds, alike.secondHolds, final.causes,
    restored⟩) fun _ => agree_tracing _ _ (agree_lift same)

theorem agree_runChild (nesting : Nesting relation limit earlier runs nested other)
    (respects : context.Respects relation limit) (fetches : context.Fetches relation runs)
    {frame : Frame World} (frameRespects : frame.Respects relation limit) (index : Nat)
    {child known : Remembered} (childHolds : child.Holds limit) (knownHolds : known.Holds limit)
    (sameContent : child.content = known.content) (sameTemplate : child.template = known.template) :
    Agree relation limit earlier (runChild nested context frame index child)
      (runChild other context frame index known) := by
  refine agree_get fun start second alike => ?_
  have inside : Context.Respects relation limit
      { context with layers := [], globals := [], frame := some frame.child } := by
    refine ⟨respects.fragments, ?_⟩
    rintro _ ⟨⟩
    exact frameRespects.child
  have begin : Alike relation limit earlier
      { world := start.world, memory := child.inner, cause := start.cause }
      { world := second.world, memory := known.inner, cause := second.cause } := by
    exact ⟨alike.world, childHolds.inner, knownHolds.inner, alike.causes, rfl⟩
  have ran := nesting.agree _ inside fetches child.template (nesting.parsed _ _ childHolds.compiled) _ _
    begin
  dsimp only
  rw [← sameTemplate]
  revert ran
  generalize StateT.run (ExceptT.run (nested _ child.template))
    { world := start.world, memory := child.inner, cause := start.cause } = left
  generalize StateT.run (ExceptT.run (other _ child.template))
    { world := second.world, memory := known.inner, cause := second.cause } = right
  obtain ⟨result, final⟩ := left
  obtain ⟨otherResult, otherFinal⟩ := right
  rintro ⟨sameResult, alikeFinal⟩
  have sameOutput : otherFinal.output = final.output := alikeFinal.output
  obtain rfl : result = otherResult := sameResult
  have childAfter : Remembered.Holds limit { child with inner := final.memory } :=
    ⟨childHolds.compiled, alikeFinal.firstHolds⟩
  have knownAfter : Remembered.Holds limit
      ⟨known.content, child.template, otherFinal.memory⟩ := by
    refine ⟨?_, alikeFinal.secondHolds⟩
    rw [← sameContent]
    exact childHolds.compiled
  refine agree_bind (agree_set ⟨alikeFinal.world, alike.firstHolds.set index childAfter,
    alike.secondHolds.set index knownAfter, alikeFinal.causes, ?_⟩) fun _ => ?_
  · rw [alike.same]
  · match result with
    | .ok () =>
        rw [sameOutput]
        exact agree_pure _
    | .error (.failed error) => exact agree_pure _
    | .error .crashed => exact agree_throw _
    | .error .endless => exact agree_throw _

theorem agree_widgetText (nesting : Nesting relation limit earlier runs nested other)
    (respects : context.Respects relation limit) (fetches : context.Fetches relation runs)
    {frame : Frame World} (frameRespects : frame.Respects relation limit) (index : Nat)
    (name : String) :
    Agree relation limit earlier (widgetText nested context frame index name)
      (widgetText other context frame index name) := by
  unfold widgetText
  cases source : frame.widgets with
  | noLocator => exact agree_pure _
  | noService => exact agree_pure _
  | service content? =>
      refine agree_ite ?tooDeep ?within
      case tooDeep =>
        refine agree_bind (agree_modify fun start other alike => ?_) fun _ => agree_pure _
        refine ⟨frameRespects.report _ _ _ alike.world, alike.firstHolds, alike.secondHolds,
          alike.causes, ?_⟩
        rw [alike.same]
      case within =>
        refine agree_bind (agree_modifyGet fun start other alike => ?_) fun found => ?_
        · obtain ⟨same, world⟩ := frameRespects.service content? source name _ _ alike.world
          refine ⟨same, world, alike.firstHolds, alike.secondHolds, alike.causes, ?_⟩
          rw [alike.same]
        · match found with
          | .error error => exact agree_pure _
          | .ok none => exact agree_pure _
          | .ok (some content) =>
              refine agree_get fun start other alike => ?_
              obtain ⟨inner, innerHolds, child⟩ :=
                childTemplate_eq alike.firstHolds index content
              obtain ⟨known, knownHolds, otherChild⟩ :=
                childTemplate_eq alike.secondHolds index content
              rw [frameRespects.range, child, otherChild]
              cases parsed : parseView limit content with
              | ok template =>
                  exact agree_runChild nesting respects fetches frameRespects index
                    ⟨parsed, innerHolds⟩ ⟨parsed, knownHolds⟩ rfl rfl
              | error stop =>
                  cases stop with
                  | refused error => exact agree_pure _
                  | crashed => exact agree_throw _

theorem agree_runWidget (nesting : Nesting relation limit earlier runs nested other)
    (respects : context.Respects relation limit) (fetches : context.Fetches relation runs)
    (index : Nat) (name : String) :
    Agree relation limit earlier (runWidget nested context index name)
      (runWidget other context index name) := by
  unfold runWidget
  cases found : context.frame with
  | none => exact agree_fail _
  | some frame =>
      refine agree_bind (agree_widgetText nesting respects fetches (respects.frame frame found)
        index name) fun text => ?_
      cases text with
      | ok text => exact agree_print text
      | error error => exact agree_failDirective error

mutual
theorem agree_runNode (nesting : Nesting relation limit earlier runs nested other)
    {context : Context World} (respects : context.Respects relation limit)
    (fetches : context.Fetches relation runs) : (node : Node) →
      Agree relation limit earlier (runNode nested context node) (runNode other context node)
  | .text content => agree_print content
  | .output chain => agree_bind (agree_evaluateChain context chain) fun _ => agree_print _
  | .assign name chain => agree_bind (agree_tracing _ _ (agree_evaluateChain context chain))
      fun _ => agree_assignGlobal name _
  | .capture name body => agree_bind (agree_tracing _ _ (agree_captured
      (agree_runBlock nesting respects fetches body))) fun _ => agree_assignGlobal name _
  | .increment name => agree_count name 0 1
  | .decrement name => agree_count name (-1) 0
  | .cycle group values => agree_bind (agree_tracing _ _ (agree_bind
      (agree_cycleOperand group values) fun operand => agree_evaluate context operand))
      fun _ => agree_print _
  | .insert fragment arguments => agree_runInsert nesting respects fetches fragment arguments
  | .widget index name _ => agree_runWidget nesting respects fetches index name
  | .interrupt kind => agree_change _ fun _ _ _ _ => rfl
  | .branch condition expected onTrue onFalse => by
      refine agree_tracing _ _ (agree_bind (agree_scope context) fun scope =>
        agree_bind (agree_liftEngine _) fun holds => ?_)
      exact agree_ite (agree_runBlock nesting respects fetches onTrue)
        (agree_tracing _ _ (agree_runBlock nesting respects fetches onFalse))
  | .select target clauses => agree_bind (agree_evaluate context target) fun value =>
      agree_runClauses nesting respects fetches _ _ value clauses
  | .loop binder source length offset reversed body otherwise => by
      refine agree_bind (agree_loopItems context _ source) fun items =>
        agree_bind (agree_attributeOf context length) fun length =>
        agree_bind (agree_attributeOf context offset) fun offset => ?_
      refine agree_ite
        (agree_tracing _ _ (agree_tracing _ _ (agree_runBlock nesting respects fetches otherwise)))
        (agree_bind (agree_scope context) fun scope => agree_eachTurn (fun index item => ?_) 0 _)
      exact agree_tracing _ _ (agree_runBlock nesting (respects.within _) fetches body)
  | .table binder source columns length offset body => by
      refine agree_bind (agree_loopItems context _ source) fun items =>
        agree_bind (agree_attributeOf context columns) fun columns =>
        agree_bind (agree_attributeOf context length) fun length =>
        agree_bind (agree_attributeOf context offset) fun offset => ?_
      refine agree_ite (agree_throw _)
        (agree_eachCell (fun index item column last => ?_) _ _ 0 _)
      exact agree_tracing _ _ (agree_runBlock nesting (respects.within _) fetches body)
  | .whenChanged body => by
      refine agree_bind
        (agree_tracing _ _ (agree_captured (agree_runBlock nesting respects fetches body)))
        fun text => agree_get fun start other alike => ?_
      rw [alike.same]
      exact agree_ite (agree_bind (agree_print text) fun _ => agree_change _ fun _ _ _ _ => rfl)
        (agree_change _ fun _ _ _ _ => rfl)

theorem agree_runBlock (nesting : Nesting relation limit earlier runs nested other)
    {context : Context World} (respects : context.Respects relation limit)
    (fetches : context.Fetches relation runs) :
    (block : Block) →
      Agree relation limit earlier (runBlock nested context block) (runBlock other context block)
  | .done => agree_pure _
  | .step first rest => by
      refine agree_bind (agree_runNode nesting respects fetches first) fun _ => ?_
      refine agree_get fun start other alike => ?_
      rw [alike.same]
      exact agree_ite (agree_runBlock nesting respects fetches rest) (agree_pure _)

theorem agree_runClauses (nesting : Nesting relation limit earlier runs nested other)
    {context : Context World} (respects : context.Respects relation limit)
    (fetches : context.Fetches relation runs)
    (origin : String) (facts : Facts) (target : Value) : (clauses : Clauses) →
      Agree relation limit earlier (runClauses nested context origin facts target clauses)
        (runClauses other context origin facts target clauses)
  | .otherwise body =>
      agree_tracing _ _ (agree_tracing _ _ (agree_runBlock nesting respects fetches body))
  | .case values body rest => by
      refine agree_bind (agree_scope context) fun scope => agree_bind (agree_liftEngine _) fun _ => ?_
      exact agree_ite
        (agree_tracing _ _ (agree_tracing _ _ (agree_runBlock nesting respects fetches body)))
        (agree_runClauses nesting respects fetches origin facts target rest)
end

end Nesting

def renderTemplateBy (nested : Nested World) (context : Context World) (template : Template)
    (memory : Memory) (cause : Option RenderError) (world : World) : Rendered World :=
  let start : RunState World := { world := world, memory := memory, cause := cause }
  let (result, final) := (nested context template).run.run start
  match result with
  | .ok () => ⟨.ok final.output, final.world, final.memory, final.cause⟩
  | .error stop => ⟨.error (stopError final.cause stop), final.world, final.memory, none⟩

theorem renderTemplateBy_runTemplate (fuel : Nat) :
    renderTemplateBy (runTemplate fuel : Nested World) = renderTemplate fuel := rfl

section Templates

variable {relation : World → World → Prop} {limit : Nat} {context : Context World}

theorem renderTemplateBy_agree {nested other : Nested World} {template : Template}
    (agree : Agree relation limit (none, none) (nested context template) (other context template))
    {memory known : Memory} (holds : memory.Holds limit) (knownHolds : known.Holds limit)
    {world second : World} (alike : relation world second) :
    let first := renderTemplateBy nested context template memory none world
    let second := renderTemplateBy other context template known none second
    first.result = second.result ∧ first.memory.Holds limit ∧
      relation first.world second.world := by
  have begin : Alike relation limit (none, none) { world := world, memory := memory, cause := none }
      { world := second, memory := known, cause := none } :=
    ⟨alike, holds, knownHolds, ⟨none, rfl, rfl⟩, rfl⟩
  obtain ⟨same, final⟩ := agree _ _ begin
  unfold renderTemplateBy
  dsimp only
  revert same final
  generalize StateT.run (ExceptT.run (nested context template))
    { world := world, memory := memory, cause := none } = left
  generalize StateT.run (ExceptT.run (other context template))
    { world := second, memory := known, cause := none } = right
  obtain ⟨result, state⟩ := left
  obtain ⟨otherResult, otherState⟩ := right
  intro same final
  obtain ⟨left, caused, otherCaused⟩ := final.causes
  have sameCause : otherState.cause = state.cause := otherCaused.trans caused.symm
  have sameOutput : otherState.output = state.output := final.output
  obtain rfl : result = otherResult := same
  match result with
  | .ok () => exact ⟨congrArg Except.ok sameOutput.symm, final.firstHolds, final.world⟩
  | .error stop =>
      refine ⟨?_, final.firstHolds, final.world⟩
      show Except.error (stopError state.cause stop) = Except.error (stopError otherState.cause stop)
      rw [sameCause]

variable (respects : context.Respects relation limit)

include respects

theorem agree_runTemplate (fuel : Nat) (template : Template) :
    Agree relation limit earlier (runTemplate fuel context template)
      (runTemplate fuel context template) := by
  induction fuel generalizing context template with
  | zero => exact agree_throw _
  | succ fuel ih =>
      have nesting :
          Nesting relation limit earlier (fun _ => True) (runTemplate fuel) (runTemplate fuel) :=
        ⟨fun _ inner _ each _ => ih inner each, fun _ _ _ => trivial⟩
      exact agree_runBlock nesting respects (fun _ _ _ _ _ _ _ _ _ _ => trivial) template.body

/-- A render on alike worlds, whatever true things are remembered on either side. -/
theorem renderTemplate_agree (fuel : Nat) (template : Template) {memory known : Memory}
    (holds : memory.Holds limit) (knownHolds : known.Holds limit) {world other : World}
    (alike : relation world other) :
    let first := renderTemplate fuel context template memory none world
    let second := renderTemplate fuel context template known none other
    first.result = second.result ∧ first.memory.Holds limit ∧
      relation first.world second.world := by
  rw [← renderTemplateBy_runTemplate]
  exact renderTemplateBy_agree (agree_runTemplate respects fuel template) holds knownHolds alike

end Templates

end LiveViews
