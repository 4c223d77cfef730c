import LiveViews.Liquid.Element
import LiveViews.Liquid.Template
import LiveViews.Widget.Directive

/-!
Compiling the elements of a text to a template.

Errors are found in the order of the text. A tag reads all its arguments before the body of its
block is looked at; a block is read up to its own end tag, whatever stands between. All blocks read
from one run of elements, so what a block has read is gone for those around it, even if it failed.
-/

namespace LiveViews.Liquid

inductive Fault where
  | malformed (offset : Nat)
  | unexpected (offset : Nat)
  | located (offset : Nat) (complaint : String)
  | atEnd (complaint : String)
  | plain (error : EngineError)
  | crashed

/-- The arguments of a tag that are still to be read, and where the last one read ends. -/
structure Arguments where
  tokens : List Token
  stop : Nat

abbrev Reading := StateT Arguments (Except Fault)

namespace Reading

def refuse {α : Type} (fault : Fault) : Reading α :=
  throw fault

def next? : Reading (Option Token) := do
  let arguments ← get
  match arguments.tokens with
  | [] => return none
  | token :: rest =>
    set (⟨rest, token.stop⟩ : Arguments)
    return some token

def peek? : Reading (Option Token) := do
  return (← get).tokens.head?

def next (complaint : String) : Reading Token := do
  match ← next? with
  | some token => return token
  | none => refuse (.located (← get).stop complaint)

def nothing : Reading Unit := do
  match ← next? with
  | some token => refuse (.unexpected token.start)
  | none => return ()

/-- Whole numbers are looked at when an operand is taken, not when it is read. -/
def checked (operand : Operand) : Reading Operand :=
  if operand.fits then return operand else refuse .crashed

def operandOf (token : Token) : Reading Operand :=
  match token.kind with
  | .chain ⟨entry, []⟩ => checked entry
  | _ => refuse (.unexpected token.start)

def nameOf (token : Token) : Reading String :=
  match token.kind with
  | .chain ⟨.variable name [], []⟩ => return name
  | _ => refuse (.unexpected token.start)

def operand (complaint : String) : Reading Operand := do
  operandOf (← next complaint)

def name (complaint : String) : Reading String := do
  nameOf (← next complaint)

def exactly (word complaint : String) (token : Token) : Reading Unit :=
  if token.text = word then return () else refuse (.located token.start complaint)

def word (word complaint : String) : Reading Unit := do
  exactly word complaint (← next complaint)

end Reading

def FilterCall.fits (call : FilterCall) : Bool :=
  call.positional.all Operand.fits && call.named.all fun argument => argument.2.fits

def resolveCall (call : FilterCall) : Except Fault FilterStep :=
  if !call.fits then .error .crashed else call.step.mapError .plain

def resolveChain (chain : Chain) : Except Fault FilterChain := do
  if !chain.entry.fits then .error .crashed
  else
    let steps ← chain.calls.mapM resolveCall
    return ⟨chain.entry, steps⟩

namespace Reading

/-- In a tag, a chain whose filters are not right counts as a token of the wrong kind. -/
def chain (complaint : String) : Reading FilterChain := do
  let token ← next complaint
  match token.kind with
  | .chain written =>
    match resolveChain written with
    | .ok chain => return chain
    | .error .crashed => refuse .crashed
    | .error _ => refuse (.unexpected token.start)
  | _ => refuse (.unexpected token.start)

def comparison? : String → Option Comparison
  | "==" => some .equal
  | "!=" | "<>" => some .notEqual
  | "<" => some .less
  | ">" => some .greater
  | "<=" => some .lessEqual
  | ">=" => some .greaterEqual
  | "contains" => some .contains
  | _ => none

def simpleCondition : Reading Condition := do
  let left ← operand "Value expected."
  match (← peek?).bind fun token => comparison? token.text with
  | some comparison =>
    let _ ← next?
    let right ← operand "Value expected."
    return .compare left comparison right
  | none => return .holds left

def moreBoth : Nat → Condition → Reading Condition
  | 0, left => return left
  | fuel + 1, left => do
    match (← peek?).map Token.text with
    | some "and" =>
      let _ ← next?
      let right ← simpleCondition
      moreBoth fuel (.both left right)
    | _ => return left

def moreEither : Nat → Condition → Reading Condition
  | 0, left => return left
  | fuel + 1, left => do
    match ← next? with
    | none => return left
    | some token =>
      exactly "or" "\"and\" or \"or\" expected." token
      let first ← simpleCondition
      let right ← moreBoth fuel first
      moreEither fuel (.either left right)

def condition : Reading Condition := do
  let fuel := (← get).tokens.length + 1
  let first ← simpleCondition
  let left ← moreBoth fuel first
  moreEither fuel left

def moreValues : Nat → List Operand → Reading (List Operand)
  | 0, values => return values
  | fuel + 1, values => do
    match ← next? with
    | none => return values
    | some token =>
      if token.text ≠ "or" then exactly "," "\"or\" or \",\" expected." token
      let value ← operand "Value expected"
      moreValues fuel (values ++ [value])

def clauseValues : Reading (List Operand) := do
  let fuel := (← get).tokens.length + 1
  let first ← operand "Value expected"
  moreValues fuel [first]

def loopSource : Reading LoopSource := do
  let token ← next "Array or range expected."
  match token.kind with
  | .range first last =>
    let first ← checked first
    let last ← checked last
    return .range first last
  | _ => return .collection (← operandOf token)

def attributeValue : Reading Operand := do
  word ":" "\":\" expected."
  operand "Value expected."

structure LoopAttributes where
  columns : Option Operand := none
  limit : Option Operand := none
  offset : Option Operand := none
  reversed : Bool := false

def loopAttributes (columns : Bool) : Nat → LoopAttributes → Reading LoopAttributes
  | 0, attributes => return attributes
  | fuel + 1, attributes => do
    match ← next? with
    | none => return attributes
    | some token =>
      match token.text, columns with
      | "limit", _ =>
        let value ← attributeValue
        loopAttributes columns fuel { attributes with limit := some value }
      | "offset", _ =>
        let value ← attributeValue
        loopAttributes columns fuel { attributes with offset := some value }
      | "cols", true =>
        let value ← attributeValue
        loopAttributes columns fuel { attributes with columns := some value }
      | "reversed", false => loopAttributes columns fuel { attributes with reversed := true }
      | _, true => refuse (.located token.start "\"cols\", \"limit\" or \"offset\" expected.")
      | _, false => refuse (.located token.start "\"limit\", \"offset\" or \"reversed\" expected.")

def loopHead (columns : Bool) : Reading (String × LoopSource × LoopAttributes) := do
  let binder ← name "Identifier expected."
  word "in" "\"in\" expected."
  let source ← loopSource
  let attributes ← loopAttributes columns ((← get).tokens.length + 1) {}
  return (binder, source, attributes)

def cycleValues : Nat → List Operand → Reading (List Operand)
  | 0, values => return values
  | fuel + 1, values => do
    match ← next? with
    | none => return values
    | some token =>
      let value ← operandOf token
      match ← next? with
      | none => return values ++ [value]
      | some comma =>
        exactly "," "\",\" expected." comma
        cycleValues fuel (values ++ [value])

def groupName (token : Token) : Reading String :=
  match token.kind with
  | .chain ⟨.variable name [], []⟩ => return name
  | .chain ⟨.literal value, []⟩ => do
    let _ ← checked (.literal value)
    return value.render
  | _ => refuse (.unexpected token.start)

/-- A cycle is known by its name, or else by its values. The second token tells which of both the
first one is. -/
def cycle : Reading Node := do
  let fuel := (← get).tokens.length + 1
  let first ← next "Identifier or value expected"
  let (named, start) ←
    match ← next? with
    | none => pure ("", [← operandOf first])
    | some token =>
      if token.text = ":" then pure (← groupName first, [])
      else do
        exactly "," "\":\" or \",\" expected." token
        pure ("", [← operandOf first])
  let values ← cycleValues fuel start
  let group := if named.isEmpty then Text.joined "-" (values.map Operand.source) else named
  return .cycle group values

/-- Arguments of an inserted fragment. The list goes on as long as commas follow; what stands in the
place of the last comma is not looked at. -/
def insertArguments : Nat → List (String × Operand) → Reading (List (String × Operand))
  | 0, collected => return collected
  | fuel + 1, collected => do
    match ← next? with
    | none => return collected
    | some token =>
      let name ← nameOf token
      exactly ":" "expected \":\" to be used for the assignment" (← next "\":\" expected.")
      let value ← operand "expected value"
      let collected := collected ++ [(name, value)]
      if ((← next?).map Token.text) = some "," then insertArguments fuel collected
      else return collected

def insert : Reading Node := do
  let fragment ← operand "Identifier or literal expected."
  let arguments ← insertArguments ((← get).tokens.length + 1) []
  nothing
  return .insert fragment arguments

def assign : Reading Node := do
  let name ← name "Identifier expected."
  word "=" "Assignment operator \"=\" expected."
  let chain ← chain "FilterChain expected."
  nothing
  return .assign name chain

def onlyName (complaint : String) : Reading String := do
  let name ← name complaint
  nothing
  return name

def directive (index : Nat) : Reading Node := do
  let texts := (← get).tokens.map Token.text
  match Widget.Directive.read (Text.joined " " texts).toList with
  | .ok directive =>
    return .widget index (String.ofList directive.widget) (String.ofList directive.entity)
  | .error error => refuse (.plain (.complaint error.message))

end Reading

def Tag.read {α : Type} (tag : Tag) (reading : Reading α) : Except Fault α :=
  (reading.run ⟨tag.tokens, tag.stop⟩).map Prod.fst

def unclosed (closing : String) : Fault :=
  .atEnd ("Unclosed block. \x7b% " ++ closing ++ " %\x7d tag expected.")

structure Progress where
  source : List Char
  rest : List Element
  ended : Bool := false
  directives : Nat := 0

/-- Compiling. What a part that fails has read stays read. -/
abbrev Compile := ExceptT Fault (StateM Progress)

namespace Compile

def next? : Compile (Option Element) := do
  let progress ← get
  match progress.rest with
  | element :: rest =>
    set { progress with rest := rest }
    return some element
  | [] =>
    if progress.ended then throw .crashed
    else
      set { progress with ended := true }
      return none

def read {α : Type} (tag : Tag) (reading : Reading α) : Compile α :=
  match tag.read reading with
  | .ok result => return result
  | .error fault => throw fault

def chain (chain : Chain) : Compile FilterChain :=
  match resolveChain chain with
  | .ok chain => return chain
  | .error fault => throw fault

/-- A stray character takes along all that is left, which is looked at once more from the start of its
line. -/
def stray {α : Type} (start : Nat) : Compile α := do
  let progress ← get
  set { progress with rest := [], ended := true }
  if againMalformed progress.source start then throw (.malformed start) else throw .crashed

/-- Compiles a part for nothing; a refusal does not matter. -/
def attempt {α : Type} (part : Compile α) : Compile Unit :=
  tryCatch (discard part) fun fault =>
    match fault with
    | .crashed => throw .crashed
    | _ => return ()

end Compile

/-- The text up to the end tag of a raw block; one with arguments does not end it. -/
def rawContent : Nat → Compile (List Char)
  | 0 => throw .crashed
  | fuel + 1 => do
    match ← Compile.next? with
    | none => throw (unclosed "endraw")
    | some element =>
      match element.kind with
      | .tag ⟨"endraw", _, _, []⟩ => return []
      | _ => return element.source ++ (← rawContent fuel)

inductive Ending where
  | finished
  | closed
  | divided (tag : Tag)

mutual
def compileBlock : Nat → Option String → List String → Compile (Block × Ending)
  | 0, _, _ => throw .crashed
  | fuel + 1, closing, dividers => do
    let more (node : Node) : Compile (Block × Ending) := do
      let (block, ending) ← compileBlock fuel closing dividers
      return (.step node block, ending)
    match ← Compile.next? with
    | none =>
      match closing with
      | none => return (.done, .finished)
      | some name => throw (unclosed name)
    | some element =>
      match element.kind with
      | .text content => more (.text content)
      | .output chain => more (.output (← Compile.chain chain))
      | .stray => Compile.stray element.start
      | .tag tag =>
        if closing = some tag.name then do
          Compile.read tag Reading.nothing
          return (.done, .closed)
        else if dividers.contains tag.name then return (.done, .divided tag)
        else more (← compileTag fuel tag)

def compileBody : Nat → String → Compile Block
  | 0, _ => throw .crashed
  | fuel + 1, closing => return (← compileBlock fuel (some closing) []).1

def compileTag : Nat → Tag → Compile Node
  | 0, _ => throw .crashed
  | fuel + 1, tag => do
    match tag.name with
    | "assign" => Compile.read tag Reading.assign
    | "break" => do
      Compile.read tag Reading.nothing
      return .interrupt .leave
    | "continue" => do
      Compile.read tag Reading.nothing
      return .interrupt .next
    | "cycle" => Compile.read tag Reading.cycle
    | "increment" => return .increment (← Compile.read tag (Reading.onlyName "Identifier expected."))
    | "decrement" => return .decrement (← Compile.read tag (Reading.onlyName "Identifier expected."))
    | "include" => Compile.read tag Reading.insert
    | "render" => do
      let progress ← get
      set { progress with directives := progress.directives + 1 }
      Compile.read tag (Reading.directive progress.directives)
    | "comment" => do
      Compile.read tag Reading.nothing
      skipComment fuel
      return .text ""
    | "raw" => do
      Compile.read tag Reading.nothing
      return .text (String.ofList (← rawContent ((← get).rest.length + 1)))
    | "capture" => do
      let name ← Compile.read tag (Reading.onlyName "Identifier expected")
      return .capture name (← compileBody fuel "endcapture")
    | "ifchanged" => do
      Compile.read tag Reading.nothing
      return .whenChanged (← compileBody fuel "endifchanged")
    | "if" => compileBranch fuel true tag
    | "unless" => compileBranch fuel false tag
    | "case" => do
      let target ← Compile.read tag (do
        let target ← Reading.operand "Value expected."
        Reading.nothing
        return target)
      let (_, ending) ← compileBlock fuel (some "endcase") ["when", "else"]
      return .select target (← compileClauses fuel ending)
    | "for" => do
      let (binder, source, attributes) ← Compile.read tag (Reading.loopHead false)
      let (body, ending) ← compileBlock fuel (some "endfor") ["else"]
      let otherwise ←
        match ending with
        | .divided divider => do
          Compile.read divider Reading.nothing
          compileBody fuel "endfor"
        | _ => pure .done
      return .loop binder source attributes.limit attributes.offset attributes.reversed body
        otherwise
    | "tablerow" => do
      let (binder, source, attributes) ← Compile.read tag (Reading.loopHead true)
      let body ← compileBody fuel "endtablerow"
      return .table binder source attributes.columns attributes.limit attributes.offset body
    | _ => throw (.located tag.start "Unknown tag.")

/-- The elements of a comment. A tag is compiled for nothing, so that a block in a comment ends with
its own end tag. -/
def skipComment : Nat → Compile Unit
  | 0 => throw .crashed
  | fuel + 1 => do
    match ← Compile.next? with
    | none => throw (unclosed "endcomment")
    | some element =>
      match element.kind with
      | .tag tag =>
        if tag.name = "endcomment" then Compile.read tag Reading.nothing
        else do
          Compile.attempt (compileTag fuel tag)
          skipComment fuel
      | _ => skipComment fuel

/-- A branch from its opening tag, or from a tag that continues it. What follows `else` in its tag is
not looked at. -/
def compileBranch : Nat → Bool → Tag → Compile Node
  | 0, _, _ => throw .crashed
  | fuel + 1, expected, tag => do
    let closing := if expected then "endif" else "endunless"
    let dividers := if expected then ["else", "elsif"] else ["else"]
    let condition ← Compile.read tag Reading.condition
    let (onTrue, ending) ← compileBlock fuel (some closing) dividers
    let onFalse ←
      match ending with
      | .divided divider =>
        if divider.name = "elsif" then
          pure (.step (← compileBranch fuel expected divider) .done)
        else compileBody fuel closing
      | _ => pure .done
    return .branch condition expected onTrue onFalse

def compileClauses : Nat → Ending → Compile Clauses
  | 0, _ => throw .crashed
  | fuel + 1, ending => do
    match ending with
    | .divided divider =>
      if divider.name = "when" then do
        let values ← Compile.read divider Reading.clauseValues
        let (body, ending) ← compileBlock fuel (some "endcase") ["when", "else"]
        return .case values body (← compileClauses fuel ending)
      else do
        Compile.read divider Reading.nothing
        return .otherwise (← compileBody fuel "endcase")
    | _ => return .otherwise .done
end

inductive ParseStop where
  | refused (error : EngineError)
  | crashed

def Fault.toStop (source : List Char) : Fault → ParseStop
  | .malformed offset => .refused (.malformed (positionAt source offset))
  | .unexpected offset => .refused (.unexpected (positionAt source offset))
  | .located offset complaint => .refused (.located (positionAt source offset) complaint)
  | .atEnd complaint => .refused (.located (positionAt source source.length) complaint)
  | .plain error => .refused error
  | .crashed => .crashed

/-- Compiles a text. Every tag takes at most three steps down and is consumed by them. -/
def Template.parse (text : String) : Except ParseStop Template :=
  let source := text.toList
  let parts := elements source
  let start : Progress := { source := source, rest := parts }
  match ((compileBlock (4 * parts.length + 4) none []).run.run start).1 with
  | .ok (body, _) => .ok ⟨body⟩
  | .error fault => .error (fault.toStop source)

end LiveViews.Liquid
