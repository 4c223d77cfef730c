import LiveViews.Render.Run
import Mathlib.Data.Option.Basic

/-!
Records of runs. The record of a run lists what becomes of the widget directives on its way: which
widget's text begins to run, at which depth, and which directive fails, and why. What it lists is
what the run leaves behind as its cause (`Record.cause`), and it goes no deeper than the limit
(`Record.deep`).
-/

namespace LiveViews

open LiveViews.Liquid

variable {World : Type} {α β : Type}

inductive Event where
  | begun (depth : Nat) (widget : String)
  | failed (depth : Nat) (widget : String) (error : RenderError)

def Event.depth : Event → Nat
  | .begun depth _ => depth
  | .failed depth _ _ => depth

def Event.error? : Event → Option RenderError
  | .begun _ _ => none
  | .failed _ _ error => some error

def firstError (events : List Event) : Option RenderError :=
  events.findSome? Event.error?

@[simp] theorem firstError_nil : firstError [] = none := rfl

theorem firstError_append (earlier later : List Event) :
    firstError (earlier ++ later) = (firstError earlier).or (firstError later) :=
  List.findSome?_append

/-- The engine breaks down, and does not return an error. -/
def Liquid.Stop.isBreakdown : Stop → Bool
  | .failed _ => false
  | .crashed | .endless => true

theorem run_bind (action : Run World α) (next : α → Run World β) (state : RunState World) :
    (action >>= next).run.run state =
      match action.run.run state with
      | (.ok value, after) => (next value).run.run after
      | (.error stop, after) => (.error stop, after) := by
  show (ExceptT.bindCont next (action.run.run state).1).run (action.run.run state).2 = _
  rcases action.run.run state with ⟨_ | _, _⟩ <;> rfl

theorem run_get (state : RunState World) :
    (get : Run World (RunState World)).run.run state = (.ok state, state) := rfl

theorem run_modifyGet (change : RunState World → α × RunState World) (state : RunState World) :
    (modifyGet change : Run World α).run.run state = (.ok (change state).1, (change state).2) := rfl

/-- A part that neither takes the cause away nor leaves one. -/
def Keeps (action : Run World α) : Prop :=
  ∀ state, (action.run.run state).2.cause = state.cause

section Keeping

theorem keeps_pure (value : α) : Keeps (pure value : Run World α) :=
  fun _ => rfl

theorem keeps_throw (stop : Stop) : Keeps (throw stop : Run World α) :=
  fun _ => rfl

theorem keeps_bind {action : Run World α} {next : α → Run World β} (begins : Keeps action)
    (goesOn : ∀ value, Keeps (next value)) : Keeps (action >>= next) := by
  intro state
  have kept := begins state
  rw [run_bind]
  revert kept
  rcases action.run.run state with ⟨stop | value, after⟩
  · exact fun kept => kept
  · exact fun kept => (goesOn value after).trans kept

theorem keeps_get : Keeps (get : Run World (RunState World)) :=
  fun _ => rfl

theorem keeps_modify {change : RunState World → RunState World}
    (same : ∀ state, (change state).cause = state.cause) : Keeps (modify change : Run World Unit) :=
  same

theorem keeps_modifyGet {change : RunState World → α × RunState World}
    (same : ∀ state, (change state).2.cause = state.cause) : Keeps (modifyGet change) :=
  same

theorem keeps_ite {condition : Prop} [Decidable condition] {first second : Run World α}
    (holds : Keeps first) (fails : Keeps second) : Keeps (if condition then first else second) := by
  split
  · exact holds
  · exact fails

theorem keeps_lift (result : Except Stop α) : Keeps (lift result : Run World α) := by
  cases result with
  | ok value => exact keeps_pure value
  | error stop => exact keeps_throw stop

theorem keeps_fail (error : EngineError) : Keeps (fail error : Run World α) :=
  keeps_throw _

theorem keeps_tracing (origin : String) (facts : Facts) {part : Run World α} (keeps : Keeps part) :
    Keeps (tracing origin part facts) :=
  keeps

theorem keeps_print (text : String) : Keeps (print text : Run World Unit) :=
  fun _ => rfl

theorem keeps_scope (context : Context World) : Keeps (scope context) :=
  fun _ => rfl

theorem keeps_evaluate (context : Context World) (operand : Operand) :
    Keeps (evaluate context operand) :=
  keeps_bind (keeps_scope context) fun _ => keeps_lift _

theorem keeps_evaluateChain (context : Context World) (chain : FilterChain) :
    Keeps (evaluateChain context chain) :=
  keeps_bind (keeps_scope context) fun _ => keeps_lift _

theorem keeps_boundOf (context : Context World) (name : String) (operand : Operand) :
    Keeps (boundOf context name operand) :=
  keeps_bind (keeps_evaluate context operand) fun _ => keeps_lift _

theorem keeps_loopItems (context : Context World) (origin : String) (source : LoopSource) :
    Keeps (loopItems context origin source) := by
  cases source with
  | collection operand =>
      refine keeps_bind (keeps_evaluate context operand) fun value => ?_
      cases value <;> exact fun _ => rfl
  | range first last =>
      exact keeps_bind (keeps_boundOf context _ first) fun _ =>
        keeps_bind (keeps_boundOf context _ last) fun _ => keeps_pure _

theorem keeps_attributeOf (context : Context World) (operand : Option Operand) :
    Keeps (attributeOf context operand) := by
  cases operand with
  | none => exact keeps_pure _
  | some operand =>
      exact keeps_bind (keeps_evaluate context operand) fun _ =>
        keeps_bind (keeps_lift _) fun _ => keeps_pure _

theorem keeps_cycleOperand (group : String) (values : List Operand) :
    Keeps (cycleOperand group values : Run World Operand) := by
  refine keeps_bind ?_ fun turn => ?_
  · refine keeps_bind keeps_get fun state => keeps_ite (keeps_throw _) ?_
    exact keeps_bind (keeps_modify fun _ => rfl) fun _ => keeps_pure _
  · cases values[turn]? with
    | none => exact keeps_fail _
    | some operand => exact keeps_pure operand

theorem keeps_count (name : String) (before after : Int) :
    Keeps (count name before after : Run World Unit) :=
  keeps_bind keeps_get fun _ => keeps_bind (keeps_print _) fun _ => keeps_modify fun _ => rfl

theorem keeps_fetchFragment (context : Context World) (name : String) :
    Keeps (fetchFragment context name) := by
  unfold fetchFragment
  cases context.fragments with
  | none => exact keeps_fail _
  | some source =>
      refine keeps_bind (keeps_modifyGet fun _ => rfl) fun text? => ?_
      cases text? with
      | none => exact keeps_fail _
      | some text =>
          dsimp only
          split
          · exact keeps_pure _
          · exact keeps_fail _
          · exact keeps_throw _

end Keeping

/-- What comes of a part in which a directive failed: it fails itself, or tells so in its value. -/
inductive Fails (tells : α → Prop) : Except Stop α → Prop
  | stopped (error : EngineError) : Fails tells (.error (.failed error))
  | told {value : α} : tells value → Fails tells (.ok value)

def Never (_ : α) : Prop := False

/-- What becomes of the directives of a part, from any state. -/
structure Record (limit : Nat) (tells : α → Prop) (action : Run World α) where
  events : RunState World → List Event
  cause : ∀ state, (action.run.run state).2.cause = state.cause.or (firstError (events state))
  stops : ∀ state, firstError (events state) ≠ none → Fails tells (action.run.run state).1
  deep : ∀ state, ∀ event ∈ events state, event.depth ≤ limit

namespace Record

variable {limit : Nat} {tells : α → Prop}

def quiet {action : Run World α} (keeps : Keeps action) : Record limit tells action where
  events _ := []
  cause state := by
    rw [keeps state]
    exact (Option.or_none).symm
  stops _ some := absurd rfl some
  deep _ _ member := absurd member List.not_mem_nil

def bind {tells : β → Prop} {action : Run World α} {next : α → Run World β}
    (first : Record limit Never action) (later : ∀ value, Record limit tells (next value)) :
    Record limit tells (action >>= next) where
  events state := first.events state ++
    match action.run.run state with
    | (.ok value, after) => (later value).events after
    | (.error _, _) => []
  cause state := by
    have begins := first.cause state
    rw [run_bind, firstError_append, ← Option.or_assoc, ← begins]
    rcases action.run.run state with ⟨stop | value, after⟩
    · exact (Option.or_none).symm
    · exact (later value).cause after
  stops state := by
    have begins := first.stops state
    rw [run_bind, firstError_append]
    revert begins
    rcases action.run.run state with ⟨stop | value, after⟩
    · intro begins some
      simp only [firstError_nil, Option.or_none] at some
      cases begins some with
      | stopped error => exact .stopped error
    · intro begins some
      have nothing : firstError (first.events state) = none := by
        by_contra other
        cases begins other with
        | told impossible => exact impossible
      rw [nothing, Option.none_or] at some
      exact (later value).stops after some
  deep state event member := by
    rcases List.mem_append.mp member with early | late
    · exact first.deep state event early
    · revert late
      rcases action.run.run state with ⟨stop | value, after⟩
      · exact fun late => absurd late List.not_mem_nil
      · exact fun late => (later value).deep after event late

def choose {condition : Prop} [Decidable condition] {first second : Run World α}
    (holds : condition → Record limit tells first) (fails : ¬condition → Record limit tells second) :
    Record limit tells (if condition then first else second) where
  events := if here : condition then (holds here).events else (fails here).events
  cause := by
    by_cases here : condition
    · simpa only [here, dite_true, if_true] using (holds here).cause
    · simpa only [here, dite_false, if_false] using (fails here).cause
  stops := by
    by_cases here : condition
    · simpa only [here, dite_true, if_true] using (holds here).stops
    · simpa only [here, dite_false, if_false] using (fails here).stops
  deep := by
    by_cases here : condition
    · simpa only [here, dite_true] using (holds here).deep
    · simpa only [here, dite_false] using (fails here).deep

def traced (origin : String) (facts : Facts) {part : Run World α}
    (record : Record limit Never part) : Record limit Never (tracing origin part facts) where
  events := record.events
  cause := record.cause
  stops state some := by
    have failed := record.stops state some
    show Fails Never (Except.mapError (Stop.passing origin facts) (part.run.run state).1)
    generalize (part.run.run state).1 = result at failed ⊢
    cases failed with
    | stopped error => exact .stopped _
    | told impossible => exact absurd impossible id
  deep := record.deep

def ofCaptured {body : Run World Unit} (record : Record limit Never body) :
    Record limit Never (captured body) :=
  bind (quiet keeps_get) fun _ => bind (quiet (keeps_modify fun _ => rfl)) fun _ =>
    bind record fun _ => bind (quiet keeps_get) fun _ =>
      bind (quiet (keeps_modify fun _ => rfl)) fun _ => quiet (keeps_pure _)

def ofTurns {body : Nat → Value → Run World Unit}
    (record : ∀ index item, Record limit Never (body index item)) :
    (index : Nat) → (items : List Value) → Record limit Never (eachTurn body index items)
  | _, [] => quiet (keeps_pure _)
  | index, item :: rest =>
    bind (record index item) fun _ => bind (quiet (keeps_modifyGet fun _ => rfl)) fun taken =>
      match taken with
      | some .leave => quiet (keeps_pure _)
      | some .next => ofTurns record (index + 1) rest
      | none => ofTurns record (index + 1) rest

def ofCells {body : Nat → Value → Nat → Bool → Run World Unit}
    (record : ∀ index item column last, Record limit Never (body index item column last))
    (columns length : Nat) : (index : Nat) → (items : List Value) →
      Record limit Never (eachCell columns length body index items)
  | _, [] => quiet (keeps_pure _)
  | index, item :: rest =>
    let cell := bind (quiet (keeps_print _)) fun _ =>
      bind (record index item (index % columns)
        (index % columns + 1 = columns || index + 1 = length)) fun _ =>
      bind (quiet (keeps_print _)) fun _ =>
      choose
        (fun _ => bind (quiet (keeps_print _)) fun _ =>
          ofCells record columns length (index + 1) rest)
        (fun _ => ofCells record columns length (index + 1) rest)
    choose (fun _ => bind (quiet (keeps_print _)) fun _ => cell) (fun _ => cell)

end Record

def insertion (part : Run World Unit) (origin : String) (facts : Facts) : Run World Unit := do
  let outer ← get
  let (result, final) := part.run.run { outer with memory := .empty }
  set { final with memory := outer.memory }
  tracing origin (lift result) facts

theorem run_insertion (part : Run World Unit) (origin : String) (facts : Facts)
    (state : RunState World) : (insertion part origin facts).run.run state =
      let (result, final) := part.run.run { state with memory := .empty }
      (result.mapError (Stop.passing origin facts), { final with memory := state.memory }) := by
  unfold insertion
  rw [run_bind]
  show StateT.run (ExceptT.run _) state = _
  rcases part.run.run { state with memory := .empty } with ⟨_ | _, _⟩ <;> rfl

def Context.Within (limit : Nat) (context : Context World) : Prop :=
  ∀ frame, context.frame = some frame → frame.depth ≤ limit ∧ frame.maxDepth = limit

def Records (limit : Nat) (nested : Nested World) : Type :=
  ∀ context : Context World, context.Within limit → ∀ template,
    Record limit Never (nested context template)

def Refused (answer : Except RenderError String) : Prop :=
  ∃ error, answer = .error error

section Directives

variable {limit : Nat} {nested : Nested World} {context : Context World}

def insideContext (context : Context World) (frame : Frame World) : Context World :=
  { context with layers := [], globals := [], frame := some frame.child }

def insideState (child : Remembered) (outer : RunState World) : RunState World :=
  { world := outer.world, memory := child.inner, cause := outer.cause }

def childAnswer : Except Stop Unit × RunState World → Except Stop (Except RenderError String)
  | (.ok (), final) => .ok (.ok final.output)
  | (.error (.failed error), _) => .ok (.error (.liquid error))
  | (.error stop, _) => .error stop

theorem run_runChild (frame : Frame World) (index : Nat) (child : Remembered)
    (state : RunState World) : (runChild nested context frame index child).run.run state =
      let ran := (nested (insideContext context frame) child.template).run.run
        (insideState child state)
      (childAnswer ran, { state with
        world := ran.2.world
        cause := ran.2.cause
        memory := state.memory.set index { child with inner := ran.2.memory } }) := by
  unfold runChild insideContext insideState
  rw [run_bind]
  dsimp only [run_get]
  generalize (nested { context with layers := [], globals := [], frame := some frame.child }
    child.template).run.run
    { world := state.world, memory := child.inner, cause := state.cause } = ran
  obtain ⟨(error | _ | _) | _, final⟩ := ran <;> rfl

def finishDirective : Except RenderError String → Run World Unit
  | .ok text => print text
  | .error error => failDirective error

theorem within_inside {frame : Frame World} (within : context.Within limit)
    (here : context.frame = some frame) (shallow : frame.depth < frame.maxDepth) :
    (insideContext context frame).Within limit := by
  obtain ⟨_, same⟩ := within frame here
  rintro _ ⟨⟩
  refine ⟨?_, same⟩
  show frame.depth + 1 ≤ limit
  omega

end Directives

namespace Record

variable {limit : Nat} {nested : Nested World} {context : Context World}

def ofInsertion {part : Run World Unit} (origin : String) (facts : Facts)
    (record : Record limit Never part) : Record limit Never (insertion part origin facts) where
  events state := record.events { state with memory := .empty }
  cause state := by
    have caused := record.cause { state with memory := .empty }
    rw [run_insertion]
    exact caused
  stops state some := by
    have failed := record.stops { state with memory := .empty } some
    rw [run_insertion]
    show Fails Never (Except.mapError _ (part.run.run { state with memory := .empty }).1)
    generalize (part.run.run { state with memory := .empty }).1 = result at failed ⊢
    cases failed with
    | stopped error => exact .stopped _
    | told impossible => exact absurd impossible id
  deep state := record.deep { state with memory := .empty }

def ofInsert (records : Records limit nested) (within : context.Within limit) (fragment : Operand)
    (arguments : List (String × Operand)) :
    Record limit Never (runInsert nested context fragment arguments) :=
  bind (quiet (keeps_evaluate context fragment)) fun _ => choose (fun _ => quiet (keeps_fail _))
    fun _ => bind (quiet (keeps_scope context)) fun _ => bind (quiet (keeps_lift _)) fun _ =>
      bind (quiet (keeps_tracing _ _ (keeps_fetchFragment context _))) fun template =>
        ofInsertion _ _ (records (context.within _) within template)

def ofChild (records : Records limit nested) {frame : Frame World} (within : context.Within limit)
    (here : context.frame = some frame) (shallow : frame.depth < frame.maxDepth) (index : Nat)
    (name : String) (child : Remembered) :
    Record limit Refused (runChild nested context frame index child) where
  events state := .begun (frame.depth + 1) name ::
    (records _ (within_inside within here shallow) child.template).events (insideState child state)
  cause state := by
    have caused := (records _ (within_inside within here shallow) child.template).cause
      (insideState child state)
    rw [run_runChild]
    exact caused
  stops state some := by
    have failed := (records _ (within_inside within here shallow) child.template).stops
      (insideState child state) some
    rw [run_runChild]
    show Fails Refused (childAnswer _)
    generalize (nested _ child.template).run.run (insideState child state) = ran at failed ⊢
    obtain ⟨result, final⟩ := ran
    cases failed with
    | stopped error => exact .told ⟨_, rfl⟩
    | told impossible => exact absurd impossible id
  deep state event member := by
    rcases List.mem_cons.mp member with rfl | later
    · exact (within_inside within here shallow _ rfl).1
    · exact (records _ (within_inside within here shallow) child.template).deep _ event later

def ofWidgetText (records : Records limit nested) (frame : Frame World) (within : context.Within limit)
    (here : context.frame = some frame) (index : Nat) (name : String) :
    Record limit Refused (widgetText nested context frame index name) :=
  match frame with
  | ⟨_, _, _, .noLocator, _⟩ => quiet (keeps_pure _)
  | ⟨_, _, _, .noService, _⟩ => quiet (keeps_pure _)
  | ⟨_, _, maxRange, .service _, _⟩ =>
    choose
      (fun _ => bind (quiet (keeps_modify fun _ => rfl)) fun _ => quiet (keeps_pure _))
      fun shallow => bind (quiet (keeps_modifyGet fun _ => rfl)) fun found =>
        match found with
        | .error _ => quiet (keeps_pure _)
        | .ok none => quiet (keeps_pure _)
        | .ok (some content) => bind (quiet keeps_get) fun state =>
          match childTemplate maxRange state.memory index content with
          | .error (.refused _) => quiet (keeps_pure _)
          | .error .crashed => quiet (keeps_throw _)
          | .ok child => ofChild records within here (Nat.lt_of_not_le shallow) index name child

def ofDirective {answer : Run World (Except RenderError String)} (depth : Nat) (name : String)
    (within : depth ≤ limit) (record : Record limit Refused answer) :
    Record limit Never (answer >>= finishDirective) where
  events state := record.events state ++
    match (answer.run.run state).1 with
    | .ok (.error error) => [.failed depth name error]
    | .ok (.ok _) | .error _ => []
  cause state := by
    have caused := record.cause state
    have stopped := record.stops state
    rw [run_bind, firstError_append, ← Option.or_assoc, ← caused]
    rcases answer.run.run state with ⟨stop | error | text, after⟩
    · exact (Option.or_none).symm
    · exact Option.orElse_eq_or
    · exact (Option.or_none).symm
  stops state := by
    have stopped := record.stops state
    rw [run_bind, firstError_append]
    revert stopped
    rcases answer.run.run state with ⟨stop | error | text, after⟩
    · intro stopped some
      simp only [firstError_nil, Option.or_none] at some
      cases stopped some with
      | stopped error => exact .stopped error
    · exact fun _ _ => .stopped (.complaint error.message)
    · intro stopped some
      simp only [firstError_nil, Option.or_none] at some
      obtain ⟨error, impossible⟩ : Refused (.ok text) := by
        cases stopped some with
        | told refused => exact refused
      cases impossible
  deep state event member := by
    rcases List.mem_append.mp member with early | late
    · exact record.deep state event early
    · revert late
      rcases (answer.run.run state).1 with stop | error | text
      · exact fun late => absurd late List.not_mem_nil
      · intro late
        rw [List.mem_singleton.mp late]
        exact within
      · exact fun late => absurd late List.not_mem_nil

def ofWidget (records : Records limit nested) (context : Context World)
    (within : context.Within limit) (index : Nat) (name : String) :
    Record limit Never (runWidget nested context index name) :=
  match context with
  | ⟨_, _, _, _, none⟩ => quiet (keeps_fail _)
  | ⟨_, _, _, _, some frame⟩ =>
    ofDirective frame.depth name (within frame rfl).1
      (ofWidgetText records frame within rfl index name)

mutual
def ofNode (records : Records limit nested) (context : Context World)
    (within : context.Within limit) :
    (node : Node) → Record limit Never (runNode nested context node)
  | .text _ => quiet (keeps_print _)
  | .output chain => bind (quiet (keeps_evaluateChain context chain)) fun _ => quiet (keeps_print _)
  | .assign _ chain =>
    bind (quiet (keeps_tracing _ _ (keeps_evaluateChain context chain))) fun _ =>
      quiet (keeps_modify fun _ => rfl)
  | .capture _ body =>
    bind (traced _ _ (ofCaptured (ofBlock records context within body))) fun _ =>
      quiet (keeps_modify fun _ => rfl)
  | .increment name => quiet (keeps_count name 0 1)
  | .decrement name => quiet (keeps_count name (-1) 0)
  | .cycle group values =>
    bind (quiet (keeps_tracing _ _ (keeps_bind (keeps_cycleOperand group values) fun operand =>
      keeps_evaluate context operand))) fun _ => quiet (keeps_print _)
  | .insert fragment arguments => ofInsert records within fragment arguments
  | .widget index name _ => ofWidget records context within index name
  | .interrupt _ => quiet (keeps_modify fun _ => rfl)
  | .branch _ _ onTrue onFalse =>
    traced _ _ (bind (quiet (keeps_scope context)) fun _ => bind (quiet (keeps_lift _)) fun _ =>
      choose (fun _ => ofBlock records context within onTrue)
        fun _ => traced _ _ (ofBlock records context within onFalse))
  | .select target clauses =>
    bind (quiet (keeps_evaluate context target)) fun value =>
      ofClauses records context within _ _ value clauses
  | .loop _ source length offset _ body otherwise =>
    bind (quiet (keeps_loopItems context _ source)) fun _ =>
    bind (quiet (keeps_attributeOf context length)) fun _ =>
    bind (quiet (keeps_attributeOf context offset)) fun _ =>
      choose (fun _ => traced _ _ (traced _ _ (ofBlock records context within otherwise)))
        fun _ => bind (quiet (keeps_scope context)) fun _ => ofTurns (fun _ _ =>
          traced _ _ (ofBlock records (context.within _) within body)) 0 _
  | .table _ source columns length offset body =>
    bind (quiet (keeps_loopItems context _ source)) fun _ =>
    bind (quiet (keeps_attributeOf context columns)) fun _ =>
    bind (quiet (keeps_attributeOf context length)) fun _ =>
    bind (quiet (keeps_attributeOf context offset)) fun _ =>
      choose (fun _ => quiet (keeps_throw _)) fun _ => ofCells (fun _ _ _ _ =>
        traced _ _ (ofBlock records (context.within _) within body)) _ _ 0 _
  | .whenChanged body =>
    bind (traced _ _ (ofCaptured (ofBlock records context within body))) fun _ =>
      bind (quiet keeps_get) fun _ => choose
        (fun _ => bind (quiet (keeps_print _)) fun _ => quiet (keeps_modify fun _ => rfl))
        fun _ => quiet (keeps_modify fun _ => rfl)

def ofBlock (records : Records limit nested) (context : Context World)
    (within : context.Within limit) :
    (block : Block) → Record limit Never (runBlock nested context block)
  | .done => quiet (keeps_pure _)
  | .step first rest =>
    bind (ofNode records context within first) fun _ => bind (quiet keeps_get) fun _ =>
      choose (fun _ => ofBlock records context within rest) fun _ => quiet (keeps_pure _)

def ofClauses (records : Records limit nested) (context : Context World)
    (within : context.Within limit) (origin : String) (facts : Facts) (target : Value) :
    (clauses : Clauses) →
      Record limit Never (runClauses nested context origin facts target clauses)
  | .otherwise body => traced _ _ (traced _ _ (ofBlock records context within body))
  | .case _ body rest =>
    bind (quiet (keeps_scope context)) fun _ => bind (quiet (keeps_lift _)) fun _ =>
      choose (fun _ => traced _ _ (traced _ _ (ofBlock records context within body)))
        fun _ => ofClauses records context within origin facts target rest
end

def ofTemplate : (fuel : Nat) → Records limit (runTemplate fuel : Nested World)
  | 0 => fun _ _ _ => quiet (keeps_throw _)
  | fuel + 1 => fun context within template =>
    ofBlock (ofTemplate fuel) context within template.body

end Record

end LiveViews
