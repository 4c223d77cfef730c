import LiveViews.Log.Line
import LiveViews.Render.Error
import LiveViews.Render.Memory
import LiveViews.Render.RangeLimit

/-!
Running a template.

A run changes a world: reading fragments and widgets may do so. Fragments run in the scope of their
caller; a widget runs in a scope of its own, one level deeper, and hands back nothing but its text.
The first directive to fail leaves its cause behind, whatever wraps the failure on its way out.
-/

namespace LiveViews

open LiveViews.Liquid

variable {World : Type}

inductive WidgetSource (World : Type) where
  | noLocator
  | noService
  | service (content? : String → World → Except RenderError (Option String) × World)

structure Frame (World : Type) where
  depth : Nat
  maxDepth : Nat
  maxRange : Nat
  widgets : WidgetSource World
  report : LogLine → World → World

def Frame.child (frame : Frame World) : Frame World :=
  { frame with depth := frame.depth + 1 }

structure Context (World : Type) where
  layers : List Members
  globals : Members
  now : Int
  /-- The text of a fragment; none where fragments do not exist at all. -/
  fragments : Option (String → World → Option String × World)
  frame : Option (Frame World)

structure RunState (World : Type) where
  world : World
  memory : Memory
  /-- The cause left by the first directive that failed. -/
  cause : Option RenderError
  output : String := ""
  assigned : Members := []
  counters : Members := []
  cycles : List (String × Nat) := []
  lastChanged : Option String := none
  interrupt : Option Interrupt := none

abbrev Run (World : Type) := ExceptT Stop (StateM (RunState World))

def fail {α : Type} (error : EngineError) : Run World α :=
  throw (.failed error)

def lift {α : Type} (result : Except Stop α) : Run World α :=
  match result with
  | .ok value => pure value
  | .error stop => throw stop

def liftEngine {α : Type} (result : Except EngineError α) : Run World α :=
  lift (orStop result)

/-- Runs a part; its error comes by `origin` on its way out. -/
def tracing {α : Type} (origin : String) (part : Run World α) (facts : Facts := []) : Run World α :=
  ExceptT.adapt (Stop.passing origin facts) part

def print (text : String) : Run World Unit :=
  modify fun state => { state with output := state.output ++ text }

def scope (context : Context World) : Run World Variables := do
  let state ← get
  return ⟨context.layers, state.assigned, context.globals, state.counters, context.now⟩

def evaluate (context : Context World) (operand : Operand) : Run World Value := do
  liftEngine (operand.evaluate (← scope context))

def evaluateChain (context : Context World) (chain : FilterChain) : Run World Value := do
  lift (chain.evaluate (← scope context))

def assignGlobal (name : String) (value : Value) : Run World Unit :=
  modify fun state => { state with assigned := state.assigned.set name value }

def captured (body : Run World Unit) : Run World String := do
  let outer := (← get).output
  modify fun state => { state with output := "" }
  body
  let text := (← get).output
  modify fun state => { state with output := outer }
  return text

def containsValue (container item : Value) : Except EngineError Bool :=
  match container with
  | .array items => .ok (items.any fun member => member.equal item)
  | .object members => .ok (item.isScalar && Members.has members item.render)
  | .nil | .state _ => .error (.expected "string | array | object" container.kind)
  | scalar => .ok (Text.occursIn item.render.toList scalar.render.toList)

def Liquid.Comparison.decide (comparison : Comparison) (left right : Value) : Except EngineError Bool :=
  match comparison with
  | .equal => .ok (left.equal right)
  | .notEqual => .ok (!left.equal right)
  | .less => .ok (left.order? right = some .lt)
  | .greater => .ok (left.order? right = some .gt)
  | .lessEqual => .ok (left.order? right = some .lt || left.order? right = some .eq)
  | .greaterEqual => .ok (left.order? right = some .gt || left.order? right = some .eq)
  | .contains => containsValue left right

/-- A missing variable is no error where only its truth is asked for. -/
def decideCondition (scope : Variables) : Condition → Except EngineError Bool
  | .holds operand => .ok (((operand.evaluate? scope).map Value.isTruthy).getD false)
  | .compare left comparison right => do
    let left ← left.evaluate scope
    let right ← right.evaluate scope
    comparison.decide left right
  | .both left right => do
    if ← decideCondition scope left then decideCondition scope right else .ok false
  | .either left right => do
    if ← decideCondition scope left then .ok true else decideCondition scope right

def wholeOf (value : Value) (facts : Facts := []) : Except EngineError Int :=
  match value.integer? with
  | some number => .ok number
  | none => .error (.expected "whole number" value.kind facts)

def boundOf (context : Context World) (name : String) (operand : Operand) : Run World Int := do
  let value ← evaluate context operand
  liftEngine (wholeOf value [(name, value.render)])

def countUp : Nat → Int → List Value
  | 0, _ => []
  | count + 1, first => .int first :: countUp count (first + 1)

def loopItems (context : Context World) (origin : String) : LoopSource → Run World (List Value)
  | .collection operand => do
    match ← tracing origin (evaluate context operand) with
    | .array items => return items
    | .object members => return members.map fun member => .array [.text member.1, member.2]
    | .nil | .state _ => return []
    | scalar => fail (.expected "array" scalar.kind)
  | .range first last => tracing origin do
    let first ← boundOf context "start" first
    let last ← boundOf context "end" last
    return countUp (last - first + 1).toNat first

def attributeOf (context : Context World) : Option Operand → Run World (Option Nat)
  | none => return none
  | some operand => do
    let number ← liftEngine (wholeOf (← evaluate context operand))
    return some (Filter.countOf number)

/-- Leaves out the first `offset` items and makes the list `limit` items long, but not longer than
it was; nil fills it up. -/
def window (limit : Option Nat) (offset : Nat) (items : List Value) : List Value :=
  let offset := min offset items.length
  let length := (limit.map fun limit => min limit items.length).getD (items.length - offset)
  let kept := (items.drop offset).take length
  kept ++ List.replicate (length - kept.length) .nil

def loopObject (parent : Value) (index length : Nat) : Value :=
  .object [
    ("length", .int length),
    ("parentloop", parent),
    ("index0", .int index),
    ("index", .int (index + 1)),
    ("rindex0", .int (length - index - 1)),
    ("rindex", .int (length - index)),
    ("first", .bool (index = 0)),
    ("last", .bool (index + 1 = length))]

def cellObject (index length column : Nat) (lastInRow : Bool) : Value :=
  .object [
    ("length", .int length),
    ("index0", .int index),
    ("index", .int (index + 1)),
    ("rindex0", .int (length - index - 1)),
    ("rindex", .int (length - index)),
    ("first", .bool (index = 0)),
    ("last", .bool (index + 1 = length)),
    ("col0", .int column),
    ("col", .int (column + 1)),
    ("col_first", .bool (column = 0)),
    ("col_last", .bool lastInRow)]

def Context.within (context : Context World) (layer : Members) : Context World :=
  { context with layers := layer :: context.layers }

/-- The variables of one turn; the loop variable hides the loop object. -/
def turnLayer (binder : String) (value : Value) (loopName : String) (loop : Value) : Members :=
  [(binder, value), (loopName, loop)]

def takeInterrupt : Run World (Option Interrupt) :=
  modifyGet fun state => (state.interrupt, { state with interrupt := none })

def eachTurn (body : Nat → Value → Run World Unit) : Nat → List Value → Run World Unit
  | _, [] => return ()
  | index, item :: rest => do
    body index item
    match ← takeInterrupt with
    | some .leave => return ()
    | _ => eachTurn body (index + 1) rest

/-- Prints a cell for each item. An interrupt stays for whoever runs the table. -/
def eachCell (columns length : Nat) (body : Nat → Value → Nat → Bool → Run World Unit) :
    Nat → List Value → Run World Unit
  | _, [] => return ()
  | index, item :: rest => do
    let column := index % columns
    let lastInRow := column + 1 = columns || index + 1 = length
    if column = 0 then
      print ("<tr class=\"row" ++ toString (index / columns + 1) ++ "\">")
    print ("<td class=\"col" ++ toString (column + 1) ++ "\">")
    body index item column lastInRow
    print "</td>"
    if lastInRow then print "</tr>"
    eachCell columns length body (index + 1) rest

/-- A number of columns, as a word, that leaves no number for the last column. -/
def tooWide : Nat := 9223372036854775808

def cycleTurn (group : String) (count : Nat) : Run World Nat := do
  let cycles := (← get).cycles
  let turn := ((cycles.find? fun entry => entry.1 = group).map Prod.snd).getD 0
  if count = 0 then throw .crashed
  else
    let others := cycles.filter fun entry => entry.1 ≠ group
    modify fun state => { state with cycles := (group, (turn + 1) % count) :: others }
    return turn

def cycleOperand (group : String) (values : List Operand) : Run World Operand := do
  let turn ← cycleTurn group values.length
  match values[turn]? with
  | some operand => return operand
  | none =>
    fail (.complaint "cycle index out of bounds, most likely from mismatched cycles"
      [("index", toString turn), ("count", toString values.length)])

def count (name : String) (before after : Int) : Run World Unit := do
  let counters := (← get).counters
  let start := ((Members.get? counters name).bind Value.integer?).getD 0
  print (toString (start + before))
  modify fun state =>
    { state with counters := counters.set name (.int (start + before + after)) }

def evaluateArguments (scope : Variables) :
    List (String × Operand) → Members → Except EngineError Members
  | [], members => .ok members
  | (name, operand) :: rest, members =>
    match operand.evaluate? scope with
    | some value => evaluateArguments scope rest (members.set name value)
    | none => .error (.complaint "failed to evaluate value")

def fetchFragment (context : Context World) (name : String) : Run World Template := do
  match context.fragments with
  | none => fail (.complaint "Partial does not exist" [("name", name)])
  | some source =>
    let text? ← modifyGet fun state =>
      let (text?, world) := source name state.world
      (text?, { state with world := world })
    match text? with
    | none =>
      fail (.complaint "Unknown partial-template"
        [("requested partial", name), ("available partials", "")])
    | some text =>
      match Template.parse text with
      | .ok template => return template
      | .error (.refused error) => fail error
      | .error .crashed => throw .crashed

abbrev Nested (World : Type) := Context World → Template → Run World Unit

/-- Runs a fragment in the scope of its caller; its directives start without memory. -/
def runInsert (nested : Nested World) (context : Context World) (fragment : Operand)
    (arguments : List (String × Operand)) : Run World Unit := do
  let name ← evaluate context fragment
  if !name.isScalar then
    fail (.complaint "Can only `include` strings" [("partial", name.source)])
  else
    let origin := (Node.insert fragment arguments).tag
    let layer ← liftEngine (evaluateArguments (← scope context) arguments [])
    let template ← tracing origin (fetchFragment context name.render)
    let outer ← get
    let start := { outer with memory := .empty }
    let (result, final) := (nested (context.within layer) template).run.run start
    set { final with memory := outer.memory }
    tracing origin (lift result) [(fragment.source, name.render)]

/-- The compiled content of a widget, compiled anew only if the content has changed. -/
def childTemplate (maxRange : Nat) (memory : Memory) (index : Nat) (content : String) :
    Except ViewParseStop Remembered :=
  match (memory.get? index).filter fun entry => entry.content = content with
  | some entry => .ok entry
  | none => (parseView maxRange content).map fun template => ⟨content, template, .empty⟩

/-- Runs a widget from a state of its own. Only the world, the memory and the cause stay. -/
def runChild (nested : Nested World) (context : Context World) (frame : Frame World)
    (index : Nat) (child : Remembered) : Run World (Except RenderError String) := do
  let outer ← get
  let inside : Context World :=
    { context with layers := [], globals := [], frame := some frame.child }
  let start : RunState World :=
    { world := outer.world, memory := child.inner, cause := outer.cause }
  let (result, final) := (nested inside child.template).run.run start
  let remembered := { child with inner := final.memory }
  set { outer with
    world := final.world, cause := final.cause, memory := outer.memory.set index remembered }
  match result with
  | .ok () => return .ok final.output
  | .error (.failed error) => return .error (.liquid error)
  | .error stop => throw stop

def widgetText (nested : Nested World) (context : Context World) (frame : Frame World)
    (index : Nat) (name : String) : Run World (Except RenderError String) := do
  match frame.widgets with
  | .noLocator => return .error (.missingContext "`render` needs a service locator")
  | .noService => return .error (.missingContext "no widget service registered")
  | .service content? =>
    if frame.depth ≥ frame.maxDepth then
      let error := RenderError.recursionLimit name frame.maxDepth
      modify fun state => { state with world := frame.report ⟨"render", error.message⟩ state.world }
      return .error error
    else
      let found ← modifyGet fun state =>
        let (found, world) := content? name state.world
        (found, { state with world := world })
      match found with
      | .error error => return .error error
      | .ok none => return .error (.missingEntity "widget" name)
      | .ok (some content) =>
        match childTemplate frame.maxRange (← get).memory index content with
        | .error (.refused error) => return .error (.parse error)
        | .error .crashed => throw .crashed
        | .ok child => runChild nested context frame index child

/-- A failing directive leaves its cause unless an earlier one has, and fails in the engine. -/
def failDirective (error : RenderError) : Run World Unit := do
  modify fun state => { state with cause := state.cause <|> some error }
  fail (.complaint error.message)

def runWidget (nested : Nested World) (context : Context World) (index : Nat) (name : String) :
    Run World Unit := do
  match context.frame with
  | none => fail (.complaint "missing context: `render` used outside a view render")
  | some frame =>
    match ← widgetText nested context frame index name with
    | .ok text => print text
    | .error error => failDirective error

def matchesClause (scope : Variables) (target : Value) :
    List Operand → Except EngineError Bool
  | [] => .ok false
  | operand :: rest => do
    let value ← operand.evaluate scope
    if value.equal target then .ok true else matchesClause scope target rest

mutual
def runNode (nested : Nested World) (context : Context World) (node : Node) : Run World Unit :=
  match node with
  | .text content => print content
  | .output chain => do print (← evaluateChain context chain).render
  | .assign name chain => do assignGlobal name (← tracing node.tag (evaluateChain context chain))
  | .capture name body => do
    let text ← tracing node.tag (captured (runBlock nested context body))
    assignGlobal name (.text text)
  | .increment name => count name 0 1
  | .decrement name => count name (-1) 0
  | .cycle group values => do
    let value ← tracing node.tag do evaluate context (← cycleOperand group values)
    print value.render
  | .insert fragment arguments => runInsert nested context fragment arguments
  | .widget index name _ => runWidget nested context index name
  | .interrupt kind => modify fun state => { state with interrupt := some kind }
  | .branch condition expected onTrue onFalse => tracing node.tag do
    let holds ← liftEngine (decideCondition (← scope context) condition)
    if holds = expected then runBlock nested context onTrue
    else tracing elseTag (runBlock nested context onFalse)
  | .select target clauses => do
    let value ← evaluate context target
    runClauses nested context node.tag [(target.source, value.render)] value clauses
  | .loop binder source limit offset reversed body otherwise => do
    let items ← loopItems context node.tag source
    let limit ← attributeOf context limit
    let offset ← attributeOf context offset
    let shown := window limit (offset.getD 0) items
    let shown := if reversed then shown.reverse else shown
    if shown.isEmpty then tracing node.tag (tracing elseTag (runBlock nested context otherwise))
    else
      let parent := ((← scope context).root? "forloop").getD .nil
      eachTurn (fun index item =>
        let loop := loopObject parent index shown.length
        let inside := context.within (turnLayer binder item "forloop" loop)
        tracing node.tag (runBlock nested inside body) [("index", toString (index + 1))]) 0 shown
  | .table binder source columns limit offset body => do
    let items ← loopItems context node.tag source
    let columns ← attributeOf context columns
    let limit ← attributeOf context limit
    let offset ← attributeOf context offset
    let shown := window limit (offset.getD 0) items
    let columns := columns.getD shown.length
    if (columns = 0 || columns = tooWide) && !shown.isEmpty then throw .crashed
    else
      eachCell columns shown.length (fun index item column lastInRow =>
        let cell := cellObject index shown.length column lastInRow
        let inside := context.within (turnLayer binder item "tablerow" cell)
        tracing node.tag (runBlock nested inside body) [("index", toString (index + 1))]) 0 shown
  | .whenChanged body => do
    let text ← tracing node.tag (captured (runBlock nested context body))
    if (← get).lastChanged ≠ some text then print text
    modify fun state => { state with lastChanged := some text }

def runBlock (nested : Nested World) (context : Context World) : Block → Run World Unit
  | .done => return ()
  | .step first rest => do
    runNode nested context first
    if (← get).interrupt.isNone then runBlock nested context rest

def runClauses (nested : Nested World) (context : Context World) (origin : String)
    (facts : Facts) (target : Value) : Clauses → Run World Unit
  | .otherwise body => tracing origin (tracing elseTag (runBlock nested context body)) facts
  | .case values body rest => do
    if ← liftEngine (matchesClause (← scope context) target values) then
      tracing origin (tracing (clauseTag values) (runBlock nested context body)) facts
    else runClauses nested context origin facts target rest
end

/-- Runs a template in which others nest at most `fuel` deep. -/
def runTemplate : Nat → Nested World
  | 0 => fun _ _ => throw .endless
  | fuel + 1 => fun context template => runBlock (runTemplate fuel) context template.body

structure Rendered (World : Type) where
  result : Except RenderError String
  world : World
  memory : Memory
  cause : Option RenderError

/-- The error of a render that stopped: the cause left by a directive, or else the engine's own. -/
def stopError (cause : Option RenderError) : Stop → RenderError
  | .failed error => cause.getD (.liquid error)
  | .crashed => .task
  | .endless => .endless

/-- Renders a template from a cause that an earlier render may have left. -/
def renderTemplate (fuel : Nat) (context : Context World) (template : Template) (memory : Memory)
    (cause : Option RenderError) (world : World) : Rendered World :=
  let start : RunState World := { world := world, memory := memory, cause := cause }
  let (result, final) := (runTemplate fuel context template).run.run start
  match result with
  | .ok () => ⟨.ok final.output, final.world, final.memory, final.cause⟩
  | .error stop => ⟨.error (stopError final.cause stop), final.world, final.memory, none⟩

end LiveViews
