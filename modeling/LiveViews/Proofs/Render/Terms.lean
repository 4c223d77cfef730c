import LiveViews.Proofs.Liquid.Filters
import LiveViews.Proofs.Render.Agreement

/-!
Terms that runs keep to: what they make of the world, which causes they leave, and whether they may come
to templates nested too deep. A template's own statements keep to all terms, so that a run keeps to
those that the templates it calls keep to; and if two ways to run those do the same, so do two runs
(`shadows_runBlock`).
-/

namespace LiveViews

open LiveViews.Liquid

variable {World : Type} {α β : Type}

structure Terms (World : Type) where
  world : World → Prop
  cause : RenderError → Prop
  deep : Prop

namespace Terms

variable (terms : Terms World)

structure Hold (state : RunState World) : Prop where
  world : terms.world state.world
  cause : ∀ error, state.cause = some error → terms.cause error

structure Kept (good : α → Prop) (ran : Except Stop α × RunState World) : Prop where
  hold : terms.Hold ran.2
  value : ∀ value, ran.1 = .ok value → good value
  deep : ran.1 = .error .endless → terms.deep

end Terms

/-- Where the terms hold, the second run does what the first one does, and that keeps to them. -/
def Shadows (terms : Terms World) (good : α → Prop) (first second : Run World α) : Prop :=
  ∀ state, terms.Hold state →
    second.run.run state = first.run.run state ∧ terms.Kept good (first.run.run state)

def Anything (_ : α) : Prop := True

section Steps

variable {terms : Terms World} {good : α → Prop} {better : β → Prop}

theorem shadows_pure {value : α} (holds : good value) :
    Shadows terms good (pure value) (pure value) := by
  refine fun state hold => ⟨rfl, hold, ?_, nofun⟩
  rintro _ ⟨⟩
  exact holds

theorem shadows_return (value : α) : Shadows terms Anything (pure value) (pure value) :=
  shadows_pure trivial

theorem Shadows.any {first second : Run World α} (shadows : Shadows terms good first second) :
    Shadows terms Anything first second := by
  intro state hold
  obtain ⟨same, kept⟩ := shadows state hold
  exact ⟨same, kept.hold, fun _ _ => trivial, kept.deep⟩

theorem shadows_lift {result : Except Stop α} (flat : Flat result) :
    Shadows terms Anything (lift result) (lift result) := by
  refine fun state hold => ⟨rfl, ?_, fun _ _ => trivial, ?_⟩
  · cases result <;> exact hold
  · intro stopped
    cases result with
    | ok value => cases stopped
    | error stop =>
        cases stopped
        exact absurd rfl flat

theorem shadows_liftEngine (result : Except EngineError α) :
    Shadows terms Anything (liftEngine result) (liftEngine result) :=
  shadows_lift (flat_orStop result)

theorem shadows_fail (error : EngineError) : Shadows terms good (fail error) (fail error) :=
  fun _ hold => ⟨rfl, hold, nofun, nofun⟩

theorem shadows_crash : Shadows terms good (throw .crashed) (throw .crashed) :=
  fun _ hold => ⟨rfl, hold, nofun, nofun⟩

theorem shadows_bind {first second : Run World α} {next after : α → Run World β}
    (begins : Shadows terms good first second)
    (goesOn : ∀ value, good value → Shadows terms better (next value) (after value)) :
    Shadows terms better (first >>= next) (second >>= after) := by
  intro state hold
  obtain ⟨same, kept⟩ := begins state hold
  rw [run_bind, run_bind, same]
  revert kept
  rcases first.run.run state with ⟨stop | value, middle⟩
  · intro kept
    refine ⟨rfl, kept.hold, nofun, ?_⟩
    rintro ⟨⟩
    exact kept.deep rfl
  · exact fun kept => goesOn value (kept.value value rfl) middle kept.hold

theorem shadows_get : Shadows terms terms.Hold get get := by
  refine fun state hold => ⟨rfl, hold, ?_, nofun⟩
  rintro _ ⟨⟩
  exact hold

theorem shadows_modifyGet {change : RunState World → α × RunState World}
    (step : ∀ state, terms.Hold state → good (change state).1 ∧ terms.Hold (change state).2) :
    Shadows terms good (modifyGet change) (modifyGet change) := by
  intro state hold
  refine ⟨rfl, (step state hold).2, ?_, nofun⟩
  rintro _ ⟨⟩
  exact (step state hold).1

theorem shadows_read {read : World → α × World}
    (keeps : ∀ world, terms.world world → terms.world (read world).2) :
    let reading : Run World α := modifyGet fun state =>
      let (value, world) := read state.world
      (value, { state with world := world })
    Shadows terms (fun value => ∃ world, terms.world world ∧ (read world).1 = value)
      reading reading :=
  shadows_modifyGet fun state hold =>
    ⟨⟨state.world, hold.world, rfl⟩, keeps _ hold.world, hold.cause⟩

theorem shadows_modify {change : RunState World → RunState World}
    (step : ∀ state, terms.Hold state → terms.Hold (change state)) :
    Shadows terms Anything (modify change) (modify change) :=
  fun state hold => ⟨rfl, step state hold, fun _ _ => trivial, nofun⟩

theorem shadows_ite {condition : Prop} [Decidable condition] {first second third fourth : Run World α}
    (holds : Shadows terms good first second) (fails : Shadows terms good third fourth) :
    Shadows terms good (if condition then first else third)
      (if condition then second else fourth) := by
  split
  · exact holds
  · exact fails

theorem shadows_tracing (origin : String) (facts : Facts) {first second : Run World α}
    (part : Shadows terms good first second) :
    Shadows terms good (tracing origin first facts) (tracing origin second facts) := by
  intro state hold
  obtain ⟨same, kept⟩ := part state hold
  refine ⟨?_, kept.hold, ?_, ?_⟩
  · show (Except.mapError _ (second.run.run state).1, (second.run.run state).2) =
      (Except.mapError _ (first.run.run state).1, (first.run.run state).2)
    rw [same]
  · exact fun value returned => kept.value value (returned_of_tracing returned)
  · intro stopped
    change Except.mapError (Stop.passing origin facts) (first.run.run state).1 = _ at stopped
    refine kept.deep ?_
    revert stopped
    rcases (first.run.run state).1 with (_ | _ | _) | _
    · exact nofun
    · exact nofun
    · exact fun _ => rfl
    · exact nofun

end Steps

section Statements

variable {terms : Terms World}

theorem shadows_print (text : String) :
    Shadows terms Anything (print text) (print text) :=
  shadows_modify fun _ hold => ⟨hold.world, hold.cause⟩

theorem shadows_assignGlobal (name : String) (value : Value) :
    Shadows terms Anything (assignGlobal name value) (assignGlobal name value) :=
  shadows_modify fun _ hold => ⟨hold.world, hold.cause⟩

theorem shadows_scope (context : Context World) :
    Shadows terms Anything (scope context) (scope context) :=
  shadows_bind shadows_get fun _ _ => shadows_return _

theorem shadows_evaluate (context : Context World) (operand : Operand) :
    Shadows terms (fun value => ∃ scope, operand.evaluate scope = .ok value)
      (evaluate context operand) (evaluate context operand) := by
  refine shadows_bind (shadows_scope context) fun scope _ => ?_
  cases evaluated : operand.evaluate scope with
  | ok value => exact shadows_pure ⟨scope, evaluated⟩
  | error error => exact shadows_fail error

theorem shadows_evaluateChain (context : Context World) (chain : FilterChain) :
    Shadows terms Anything (evaluateChain context chain) (evaluateChain context chain) :=
  shadows_bind (shadows_scope context) fun scope _ => shadows_lift (flat_evaluate scope chain)

theorem shadows_captured {first second : Run World Unit}
    (body : Shadows terms Anything first second) :
    Shadows terms Anything (captured first) (captured second) :=
  shadows_bind shadows_get fun _ _ =>
    shadows_bind (shadows_modify fun _ hold => ⟨hold.world, hold.cause⟩) fun _ _ =>
    shadows_bind body fun _ _ => shadows_bind shadows_get fun _ _ =>
    shadows_bind (shadows_modify fun _ hold => ⟨hold.world, hold.cause⟩) fun _ _ => shadows_return _

theorem shadows_boundOf (context : Context World) (name : String) (operand : Operand) :
    Shadows terms Anything (boundOf context name operand) (boundOf context name operand) :=
  shadows_bind (shadows_evaluate context operand) fun _ _ => shadows_liftEngine _

theorem shadows_loopItems (context : Context World) (origin : String) (source : LoopSource) :
    Shadows terms Anything (loopItems context origin source) (loopItems context origin source) := by
  cases source with
  | collection operand =>
      refine shadows_bind (shadows_tracing _ _ (shadows_evaluate context operand)) fun value _ => ?_
      cases value with
      | array items => exact shadows_return _
      | object members => exact shadows_return _
      | nil => exact shadows_return _
      | state _ => exact shadows_return _
      | _ => exact shadows_fail _
  | range first last =>
      refine shadows_tracing _ _ (shadows_bind (shadows_boundOf context _ first) fun _ _ => ?_)
      exact shadows_bind (shadows_boundOf context _ last) fun _ _ => shadows_return _

theorem shadows_attributeOf (context : Context World) (operand : Option Operand) :
    Shadows terms Anything (attributeOf context operand) (attributeOf context operand) := by
  cases operand with
  | none => exact shadows_return _
  | some operand =>
      refine shadows_bind (shadows_evaluate context operand) fun _ _ => ?_
      exact shadows_bind (shadows_liftEngine _) fun _ _ => shadows_return _

theorem shadows_takeInterrupt :
    Shadows terms Anything (takeInterrupt : Run World (Option Interrupt)) takeInterrupt :=
  shadows_modifyGet fun _ hold => ⟨trivial, hold.world, hold.cause⟩

theorem shadows_eachTurn {first second : Nat → Value → Run World Unit}
    (body : ∀ index item, Shadows terms Anything (first index item) (second index item))
    (index : Nat) (items : List Value) :
    Shadows terms Anything (eachTurn first index items) (eachTurn second index items) := by
  induction items generalizing index with
  | nil => exact shadows_return _
  | cons item rest ih =>
      refine shadows_bind (body index item) fun _ _ =>
        shadows_bind shadows_takeInterrupt fun taken _ => ?_
      match taken with
      | some .leave => exact shadows_return _
      | some .next => exact ih (index + 1)
      | none => exact ih (index + 1)

theorem shadows_eachCell {first second : Nat → Value → Nat → Bool → Run World Unit}
    (body : ∀ index item column last, Shadows terms Anything (first index item column last)
      (second index item column last)) (columns length index : Nat) (items : List Value) :
    Shadows terms Anything (eachCell columns length first index items)
      (eachCell columns length second index items) := by
  induction items generalizing index with
  | nil => exact shadows_return _
  | cons item rest ih =>
      have close : ∀ last : Bool, Shadows terms Anything
          (if last then do print "</tr>"; eachCell columns length first (index + 1) rest
            else eachCell columns length first (index + 1) rest)
          (if last then do print "</tr>"; eachCell columns length second (index + 1) rest
            else eachCell columns length second (index + 1) rest) := fun last =>
        shadows_ite (shadows_bind (shadows_print _) fun _ _ => ih (index + 1)) (ih (index + 1))
      have cell : Shadows terms Anything _ _ := shadows_bind
        (shadows_print ("<td class=\"col" ++ toString (index % columns + 1) ++ "\">")) fun _ _ =>
        shadows_bind (body index item (index % columns)
          (index % columns + 1 = columns || index + 1 = length)) fun _ _ =>
        shadows_bind (shadows_print "</td>") fun _ _ =>
        close (index % columns + 1 = columns || index + 1 = length)
      exact shadows_ite (shadows_bind (shadows_print _) fun _ _ => cell) cell

theorem shadows_cycleOperand (group : String) (values : List Operand) :
    Shadows terms Anything (cycleOperand group values : Run World Operand)
      (cycleOperand group values) := by
  have turned : Shadows terms Anything (cycleTurn group values.length : Run World Nat)
      (cycleTurn group values.length) :=
    shadows_bind shadows_get fun _ _ => shadows_ite shadows_crash
      (shadows_bind (shadows_modify fun _ hold => ⟨hold.world, hold.cause⟩) fun _ _ =>
        shadows_return _)
  refine shadows_bind turned fun turn _ => ?_
  cases values[turn]? with
  | none => exact shadows_fail _
  | some operand => exact shadows_return operand

theorem shadows_count (name : String) (before after : Int) :
    Shadows terms Anything (count name before after : Run World Unit) (count name before after) :=
  shadows_bind shadows_get fun _ _ => shadows_bind (shadows_print _) fun _ _ =>
    shadows_modify fun _ hold => ⟨hold.world, hold.cause⟩

theorem shadows_failDirective {error : RenderError} (allowed : terms.cause error) :
    Shadows terms Anything (failDirective error) (failDirective error) := by
  refine shadows_bind (shadows_modify fun state hold => ⟨hold.world, ?_⟩) fun _ _ => shadows_fail _
  intro other left
  cases known : state.cause with
  | none =>
      rw [known] at left
      cases left
      exact allowed
  | some earlier =>
      rw [known] at left
      cases left
      exact hold.cause _ known

end Statements

inductive DirectiveError : RenderError → Prop
  | missingContext (need : String) : DirectiveError (.missingContext need)
  | missingEntity (kind name : String) : DirectiveError (.missingEntity kind name)
  | recursionLimit (widget : String) (limit : Nat) : DirectiveError (.recursionLimit widget limit)
  | parse (error : ParseError) : DirectiveError (.parse error)
  | liquid (error : EngineError) : DirectiveError (.liquid error)

structure Terms.Admits (terms : Terms World) (context : Context World) : Prop where
  directive : ∀ error, DirectiveError error → (∀ refused, error ≠ .parse refused) →
    terms.cause error
  fragments : ∀ source, context.fragments = some source → ∀ name world, terms.world world →
    terms.world (source name world).2
  report : ∀ frame, context.frame = some frame → ∀ line world, terms.world world →
    terms.world (frame.report line world)
  service : ∀ frame content?, context.frame = some frame → frame.widgets = .service content? →
    ∀ name world, terms.world world → terms.world (content? name world).2 ∧
      ∀ error, (content? name world).1 = .error error → terms.cause error
  refused : ∀ frame content?, context.frame = some frame → frame.widgets = .service content? →
    ∀ name world content, terms.world world → (content? name world).1 = .ok (some content) →
      ∀ error, parseView frame.maxRange content = .error (.refused error) →
        terms.cause (.parse error)

mutual
/-- The operands that name the fragments of a statement. -/
def Liquid.Node.inserts : Node → List Operand
  | .insert fragment _ => [fragment]
  | .capture _ body | .whenChanged body => body.inserts
  | .branch _ _ onTrue onFalse => onTrue.inserts ++ onFalse.inserts
  | .select _ clauses => clauses.inserts
  | .loop _ _ _ _ _ body otherwise => body.inserts ++ otherwise.inserts
  | .table _ _ _ _ _ body => body.inserts
  | .text _ | .output _ | .assign _ _ | .increment _ | .decrement _ | .cycle _ _ | .widget _ _ _
  | .interrupt _ => []

def Liquid.Block.inserts : Block → List Operand
  | .done => []
  | .step first rest => first.inserts ++ rest.inserts

def Liquid.Clauses.inserts : Clauses → List Operand
  | .otherwise body => body.inserts
  | .case _ body rest => body.inserts ++ rest.inserts
end

/-- Two ways to run templates do the same with those that a part may call: the fragments that its
operands may name, and, one level deeper, whatever a widget may hold. -/
structure Calls (terms : Terms World) (context : Context World) (nested other : Nested World)
    (operands : List Operand) : Prop where
  insert : ∀ operand ∈ operands, ∀ scope value source world text template,
    operand.evaluate scope = .ok value → context.fragments = some source → terms.world world →
    (source value.render world).1 = some text → Template.parse text = .ok template →
    ∀ inner : Context World, inner.fragments = context.fragments → inner.frame = context.frame →
      Shadows terms Anything (nested inner template) (other inner template)
  widget : ∀ frame, context.frame = some frame → frame.depth < frame.maxDepth →
    ∀ inner : Context World, inner.fragments = context.fragments → inner.frame = some frame.child →
      ∀ template, Shadows terms Anything (nested inner template) (other inner template)

section Calling

variable {terms : Terms World} {context : Context World} {nested other : Nested World}

theorem Terms.Admits.within (admits : terms.Admits context) (layer : Members) :
    terms.Admits (context.within layer) :=
  ⟨admits.directive, admits.fragments, admits.report, admits.service, admits.refused⟩

theorem Calls.within {operands : List Operand} (calls : Calls terms context nested other operands)
    (layer : Members) : Calls terms (context.within layer) nested other operands :=
  ⟨calls.insert, calls.widget⟩

theorem Calls.left {first second : List Operand}
    (calls : Calls terms context nested other (first ++ second)) :
    Calls terms context nested other first :=
  ⟨fun operand member => calls.insert operand (List.mem_append_left _ member), calls.widget⟩

theorem Calls.right {first second : List Operand}
    (calls : Calls terms context nested other (first ++ second)) :
    Calls terms context nested other second :=
  ⟨fun operand member => calls.insert operand (List.mem_append_right _ member), calls.widget⟩

theorem shadows_fetchFragment (admits : terms.Admits context) (name : String) :
    Shadows terms (fun template => ∃ source world text, context.fragments = some source ∧
        terms.world world ∧ (source name world).1 = some text ∧ Template.parse text = .ok template)
      (fetchFragment context name) (fetchFragment context name) := by
  unfold fetchFragment
  cases found : context.fragments with
  | none => exact shadows_fail _
  | some source =>
      refine shadows_bind (shadows_read (admits.fragments source found name)) ?_
      rintro (_ | text) ⟨world, seen, answer⟩
      · exact shadows_fail _
      · dsimp only
        cases parsed : Template.parse text with
        | ok template => exact shadows_pure ⟨source, world, text, rfl, seen, answer, parsed⟩
        | error stop =>
            cases stop with
            | refused error => exact shadows_fail error
            | crashed => exact shadows_crash

theorem shadows_insertion {first second : Run World Unit} (origin : String) (facts : Facts)
    (part : Shadows terms Anything first second) :
    Shadows terms Anything (insertion first origin facts) (insertion second origin facts) := by
  intro state hold
  obtain ⟨same, kept⟩ := shadows_tracing origin facts part { state with memory := .empty }
    ⟨hold.world, hold.cause⟩
  obtain ⟨alike, _⟩ := part { state with memory := .empty } ⟨hold.world, hold.cause⟩
  rw [run_insertion, run_insertion, alike]
  exact ⟨rfl, ⟨kept.hold.world, kept.hold.cause⟩, fun _ _ => trivial, kept.deep⟩

theorem shadows_runInsert (admits : terms.Admits context) (fragment : Operand)
    (arguments : List (String × Operand)) (calls : Calls terms context nested other [fragment]) :
    Shadows terms Anything (runInsert nested context fragment arguments)
      (runInsert other context fragment arguments) := by
  refine shadows_bind (shadows_evaluate context fragment) fun value evaluated => ?_
  obtain ⟨scope, evaluated⟩ := evaluated
  refine shadows_ite (shadows_fail _) (shadows_bind (shadows_scope context) fun _ _ => ?_)
  refine shadows_bind (shadows_liftEngine _) fun layer _ => ?_
  refine shadows_bind (shadows_tracing _ _ (shadows_fetchFragment admits _)) fun template found => ?_
  obtain ⟨source, world, text, here, seen, answer, parsed⟩ := found
  exact shadows_insertion _ _ (calls.insert fragment List.mem_cons_self scope value source world text
    template evaluated here seen answer parsed _ rfl rfl)

def Terms.Allows (terms : Terms World) (answer : Except RenderError String) : Prop :=
  ∀ error, answer = .error error → terms.cause error

theorem Terms.Admits.allows (admits : terms.Admits context) {error : RenderError}
    (own : DirectiveError error) (other : ∀ refused, error ≠ .parse refused) :
    terms.Allows (.error error) := by
  rintro _ ⟨⟩
  exact admits.directive error own other

theorem parse_of_childTemplate {maxRange : Nat} {memory : Memory} {index : Nat} {content : String}
    {stop : ViewParseStop} (fails : childTemplate maxRange memory index content = .error stop) :
    parseView maxRange content = .error stop := by
  unfold childTemplate at fails
  split at fails
  · cases fails
  · cases parsed : parseView maxRange content with
    | ok template =>
        rw [parsed] at fails
        cases fails
    | error own =>
        rw [parsed] at fails
        cases fails
        rfl

theorem allows_childAnswer (admits : terms.Admits context) {ran : Except Stop Unit × RunState World}
    {answer : Except RenderError String} (answered : childAnswer ran = .ok answer) :
    terms.Allows answer := by
  obtain ⟨(error | _ | _) | _, final⟩ := ran
  · cases answered
    exact admits.allows (.liquid error) nofun
  · cases answered
  · cases answered
  · cases answered
    exact nofun

theorem endless_of_childAnswer {ran : Except Stop Unit × RunState World}
    (stopped : childAnswer ran = .error .endless) : ran.1 = .error .endless := by
  obtain ⟨(_ | _ | _) | _, final⟩ := ran
  · cases stopped
  · cases stopped
  · rfl
  · cases stopped

theorem shadows_runChild (admits : terms.Admits context) {operands : List Operand}
    (calls : Calls terms context nested other operands) {frame : Frame World}
    (here : context.frame = some frame) (shallow : frame.depth < frame.maxDepth) (index : Nat)
    (child : Remembered) :
    Shadows terms terms.Allows (runChild nested context frame index child)
      (runChild other context frame index child) := by
  intro state hold
  have begins : terms.Hold (insideState child state) := ⟨hold.world, hold.cause⟩
  obtain ⟨same, kept⟩ := calls.widget frame here shallow (insideContext context frame) rfl rfl
    child.template _ begins
  rw [run_runChild, run_runChild, same]
  exact ⟨rfl, ⟨kept.hold.world, kept.hold.cause⟩,
    fun _ answered => allows_childAnswer admits answered,
    fun stopped => kept.deep (endless_of_childAnswer stopped)⟩

theorem shadows_widgetText (admits : terms.Admits context) {operands : List Operand}
    (calls : Calls terms context nested other operands) {frame : Frame World}
    (here : context.frame = some frame) (index : Nat) (name : String) :
    Shadows terms terms.Allows (widgetText nested context frame index name)
      (widgetText other context frame index name) := by
  unfold widgetText
  cases service : frame.widgets with
  | noLocator => exact shadows_pure (admits.allows (.missingContext _) nofun)
  | noService => exact shadows_pure (admits.allows (.missingContext _) nofun)
  | service content? =>
      by_cases deep : frame.depth ≥ frame.maxDepth
      · simp only [if_pos deep]
        refine shadows_bind (shadows_modify fun state hold => ⟨?_, hold.cause⟩) fun _ _ =>
          shadows_pure (admits.allows (.recursionLimit _ _) nofun)
        exact admits.report frame here _ _ hold.world
      · simp only [if_neg deep]
        have serves := admits.service frame content? here service name
        refine shadows_bind (shadows_read fun world seen => (serves world seen).1) ?_
        rintro (error | (_ | content)) ⟨world, seen, answer⟩
        · refine shadows_pure ?_
          rintro _ ⟨⟩
          exact (serves world seen).2 error answer
        · exact shadows_pure (admits.allows (.missingEntity _ _) nofun)
        · refine shadows_bind shadows_get fun state _ => ?_
          cases compiled : childTemplate frame.maxRange state.memory index content with
          | ok child =>
              exact shadows_runChild admits calls here (Nat.lt_of_not_le deep) index child
          | error stop =>
              cases stop with
              | refused error =>
                  have parsed := parse_of_childTemplate compiled
                  refine shadows_pure ?_
                  rintro _ ⟨⟩
                  exact admits.refused frame content? here service name world content seen answer error
                    parsed
              | crashed => exact shadows_crash

theorem shadows_runWidget (admits : terms.Admits context) {operands : List Operand}
    (calls : Calls terms context nested other operands) (index : Nat) (name : String) :
    Shadows terms Anything (runWidget nested context index name)
      (runWidget other context index name) := by
  unfold runWidget
  cases here : context.frame with
  | none => exact shadows_fail _
  | some frame =>
      refine shadows_bind (shadows_widgetText admits calls here index name) fun answer allowed => ?_
      cases answer with
      | ok text => exact shadows_print text
      | error error => exact shadows_failDirective (allowed error rfl)

end Calling

section Walking

variable {terms : Terms World} {nested other : Nested World}

mutual
theorem shadows_runNode {context : Context World} (admits : terms.Admits context) :
    (node : Node) → Calls terms context nested other node.inserts →
      Shadows terms Anything (runNode nested context node) (runNode other context node)
  | .text content, _ => shadows_print content
  | .output chain, _ =>
      shadows_bind (shadows_evaluateChain context chain) fun _ _ => shadows_print _
  | .assign name chain, _ =>
      shadows_bind (shadows_tracing _ _ (shadows_evaluateChain context chain)) fun _ _ =>
        shadows_assignGlobal name _
  | .capture name body, calls =>
      shadows_bind (shadows_tracing _ _ (shadows_captured (shadows_runBlock admits body calls)))
        fun _ _ => shadows_assignGlobal name _
  | .increment name, _ => shadows_count name 0 1
  | .decrement name, _ => shadows_count name (-1) 0
  | .cycle group values, _ =>
      shadows_bind (shadows_tracing _ _ (shadows_bind (shadows_cycleOperand group values)
        fun operand _ => (shadows_evaluate context operand).any)) fun _ _ => shadows_print _
  | .insert fragment arguments, calls => shadows_runInsert admits fragment arguments calls
  | .widget index name _, calls => shadows_runWidget admits calls index name
  | .interrupt _, _ => shadows_modify fun _ hold => ⟨hold.world, hold.cause⟩
  | .branch _ _ onTrue onFalse, calls =>
      shadows_tracing _ _ (shadows_bind (shadows_scope context) fun _ _ =>
        shadows_bind (shadows_liftEngine _) fun _ _ =>
          shadows_ite (shadows_runBlock admits onTrue calls.left)
            (shadows_tracing _ _ (shadows_runBlock admits onFalse calls.right)))
  | .select target clauses, calls =>
      shadows_bind (shadows_evaluate context target) fun value _ =>
        shadows_runClauses admits _ _ value clauses calls
  | .loop _ source length offset _ body otherwise, calls =>
      shadows_bind (shadows_loopItems context _ source) fun _ _ =>
      shadows_bind (shadows_attributeOf context length) fun _ _ =>
      shadows_bind (shadows_attributeOf context offset) fun _ _ =>
        shadows_ite (shadows_tracing _ _ (shadows_tracing _ _
            (shadows_runBlock admits otherwise calls.right)))
          (shadows_bind (shadows_scope context) fun _ _ => shadows_eachTurn (fun _ _ =>
            shadows_tracing _ _ (shadows_runBlock (admits.within _) body (calls.left.within _)))
            0 _)
  | .table _ source columns length offset body, calls =>
      shadows_bind (shadows_loopItems context _ source) fun _ _ =>
      shadows_bind (shadows_attributeOf context columns) fun _ _ =>
      shadows_bind (shadows_attributeOf context length) fun _ _ =>
      shadows_bind (shadows_attributeOf context offset) fun _ _ =>
        shadows_ite shadows_crash (shadows_eachCell (fun _ _ _ _ =>
          shadows_tracing _ _ (shadows_runBlock (admits.within _) body (calls.within _))) _ _ 0 _)
  | .whenChanged body, calls =>
      shadows_bind (shadows_tracing _ _ (shadows_captured (shadows_runBlock admits body calls)))
        fun _ _ => shadows_bind shadows_get fun _ _ => shadows_ite
          (shadows_bind (shadows_print _) fun _ _ =>
            shadows_modify fun _ hold => ⟨hold.world, hold.cause⟩)
          (shadows_modify fun _ hold => ⟨hold.world, hold.cause⟩)

theorem shadows_runBlock {context : Context World} (admits : terms.Admits context) :
    (block : Block) → Calls terms context nested other block.inserts →
      Shadows terms Anything (runBlock nested context block) (runBlock other context block)
  | .done, _ => shadows_return _
  | .step first rest, calls =>
      shadows_bind (shadows_runNode admits first calls.left) fun _ _ =>
        shadows_bind shadows_get fun _ _ =>
          shadows_ite (shadows_runBlock admits rest calls.right) (shadows_return _)

theorem shadows_runClauses {context : Context World} (admits : terms.Admits context)
    (origin : String) (facts : Facts) (target : Value) :
    (clauses : Clauses) → Calls terms context nested other clauses.inserts →
      Shadows terms Anything (runClauses nested context origin facts target clauses)
        (runClauses other context origin facts target clauses)
  | .otherwise body, calls =>
      shadows_tracing _ _ (shadows_tracing _ _ (shadows_runBlock admits body calls))
  | .case _ body rest, calls =>
      shadows_bind (shadows_scope context) fun _ _ => shadows_bind (shadows_liftEngine _) fun _ _ =>
        shadows_ite (shadows_tracing _ _ (shadows_tracing _ _
            (shadows_runBlock admits body calls.left)))
          (shadows_runClauses admits origin facts target rest calls.right)
end

end Walking

end LiveViews
