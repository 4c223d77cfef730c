import LiveViews.Calendar.Format
import LiveViews.Calendar.Reader
import LiveViews.Liquid.Filter.List
import LiveViews.Liquid.Filter.Number
import LiveViews.Liquid.Filter.Text

/-!
What a filter makes of its input. Arguments are evaluated first, from left to right.
-/

namespace LiveViews.Liquid

def orStop {α : Type} (result : Except EngineError α) : Except Stop α :=
  match result with
  | .ok value => .ok value
  | .error error => .error (.failed error)

namespace Filter

def argument (scope : Variables) (operand : Operand) : Except Stop Value :=
  orStop (operand.evaluate scope)

def textArgument (scope : Variables) (operand : Operand) : Except Stop String := do
  let value ← argument scope operand
  return value.render

def wholeArgument (scope : Variables) (operand : Operand) : Except Stop Int := do
  let value ← argument scope operand
  match value.integer? with
  | some number => return number
  | none => .error (.failed .invalidArgument)

def optionalText (scope : Variables) (operand : Option Operand) :
    Except Stop (Option String) :=
  match operand with
  | none => .ok none
  | some operand => (textArgument scope operand).map some

def optionalWhole (scope : Variables) (operand : Option Operand) (usual : Int) :
    Except Stop Int :=
  match operand with
  | none => .ok usual
  | some operand => wholeArgument scope operand

def optionalValue (scope : Variables) (operand : Option Operand) :
    Except Stop (Option Value) :=
  match operand with
  | none => .ok none
  | some operand => (argument scope operand).map some

def onText (operation : List Char → List Char) (input : Value) : Except Stop Value :=
  .ok (.text (String.ofList (operation input.render.toList)))

def onPresentText (operation : List Char → List Char) (input : Value) : Except Stop Value :=
  if input.isNil then .ok .nil else onText operation input

/-- A count that is negative counts as more than there is. -/
def countOf (number : Int) : Nat :=
  if number < 0 then Text.wordBound - number.natAbs else number.toNat

def replaceBy (operation : List Char → List Char → List Char → List Char) (input : Value)
    (pattern replacement : String) : Except Stop Value :=
  onText (operation pattern.toList replacement.toList) input

def sliceOf (offset length : Int) (input : Value) : Except Stop Value :=
  if length < 1 then .error (.failed .invalidArgument)
  else
    let size :=
      match input with
      | .array items => items.length
      | _ => input.render.utf8ByteSize
    match TextFilter.sliceBounds? offset length size with
    | none => .error .crashed
    | some bounds =>
      let (start, count) := bounds.getD (size, 0)
      match input with
      | .array items => .ok (.array ((items.drop start).take count))
      | _ => onText (fun text => (text.drop start).take count) input

def formatDate (now : Int) (format : String) (input : Value) : Except Stop Value :=
  match input with
  | .text text =>
    match format.isEmpty, Calendar.ofText? now text with
    | false, some moment =>
      match moment.format format with
      | .ok written => .ok (.text written)
      | .error .unfinished =>
        .error (.failed (.complaint ("Invalid date-format string: " ++ format)))
      | .error .crashed => .error .crashed
    | _, _ => .ok input
  | _ => .ok input

def splitBy (pattern : String) (input : Value) : Except Stop Value :=
  let text := input.render
  if text.isEmpty then .ok (.array [])
  else .ok (.array ((Text.splitOn pattern.toList text.toList).map fun piece =>
    .text (String.ofList piece)))

def joinBy (separator : String) (input : Value) : Except Stop Value :=
  ListFilter.onArray (fun items => .ok (.text (Text.joined separator (items.map Value.render))))
    input

def decodeUrl (input : Value) : Except Stop Value :=
  if input.isNil then .ok .nil
  else
    match Text.percentDecode? (Text.replaced input.render "+" " ") with
    | some text => .ok (.text text)
    | none => .error (.failed .invalidInput)

def apply (scope : Variables) (filter : Filter) (input : Value) : Except Stop Value :=
  match filter with
  | .abs => NumberFilter.abs input
  | .append addition => do
    let addition ← textArgument scope addition
    return .text (input.render ++ addition)
  | .atLeast bound => do NumberFilter.atLeast input (← argument scope bound)
  | .atMost bound => do NumberFilter.atMost input (← argument scope bound)
  | .capitalize => onText Text.capitalize input
  | .ceil => NumberFilter.toWhole Float.ceil input
  | .compact property => do ListFilter.compact (← optionalText scope property) input
  | .concat other => do ListFilter.concat (← argument scope other) input
  | .date format => do formatDate scope.now (← textArgument scope format) input
  | .default replacement => do
    let replacement ← argument scope replacement
    return if input.isReplaceable then replacement else input
  | .dividedBy divisor => do NumberFilter.dividedBy input (← argument scope divisor)
  | .downcase => onText Text.lowercase input
  | .escape => onPresentText TextFilter.escape input
  | .escapeOnce => onPresentText TextFilter.escapeOnce input
  | .first => ListFilter.endOf List.head? List.head? input
  | .floor => NumberFilter.toWhole Float.floor input
  | .join separator => do
    let separator ← optionalText scope separator
    joinBy (separator.getD " ") input
  | .last => ListFilter.endOf List.getLast? List.getLast? input
  | .lstrip => onText Text.trimStart input
  | .map property => do ListFilter.map (← textArgument scope property) input
  | .minus amount => do NumberFilter.minus input (← argument scope amount)
  | .modulo divisor => do NumberFilter.modulo input (← argument scope divisor)
  | .newlineToBr => onText TextFilter.newlineToBr input
  | .plus amount => do NumberFilter.plus input (← argument scope amount)
  | .prepend addition => do
    let addition ← textArgument scope addition
    return .text (addition ++ input.render)
  | .remove pattern => do
    replaceBy Text.replaceAll input (← textArgument scope pattern) ""
  | .removeFirst pattern => do
    replaceBy Text.replaceFirst input (← textArgument scope pattern) ""
  | .replace pattern replacement => do
    let pattern ← textArgument scope pattern
    let replacement ← optionalText scope replacement
    replaceBy Text.replaceAll input pattern (replacement.getD "")
  | .replaceFirst pattern replacement => do
    let pattern ← textArgument scope pattern
    let replacement ← optionalText scope replacement
    replaceBy Text.replaceFirst input pattern (replacement.getD "")
  | .reverse => ListFilter.reverse input
  | .round places => do NumberFilter.round (← optionalWhole scope places 0) input
  | .rstrip => onText Text.trimEnd input
  | .size => .ok (.int input.size)
  | .slice offset length => do
    let offset ← wholeArgument scope offset
    let length ← optionalWhole scope length 1
    sliceOf offset length input
  | .sort property => do ListFilter.sort (← optionalText scope property) input
  | .sortNatural property => do ListFilter.sortNatural (← optionalText scope property) input
  | .split pattern => do splitBy (← textArgument scope pattern) input
  | .strip => onText Text.trim input
  | .stripHtml => onText TextFilter.stripHtml input
  | .stripNewlines => onText TextFilter.stripNewlines input
  | .times factor => do NumberFilter.times input (← argument scope factor)
  | .truncate length ellipsis => do
    let length ← optionalWhole scope length 50
    let ellipsis ← optionalText scope ellipsis
    return ((TextFilter.truncate (countOf length) (ellipsis.getD "...") input.render).map
      Value.text).getD input
  | .truncateWords count ellipsis => do
    let count ← optionalWhole scope count 50
    let ellipsis ← optionalText scope ellipsis
    return ((TextFilter.truncateWords (countOf count) (ellipsis.getD "...") input.render).map
      Value.text).getD input
  | .uniq => ListFilter.uniq input
  | .upcase => onText Text.uppercase input
  | .urlDecode => decodeUrl input
  | .urlEncode => onPresentText Text.percentEncode input
  | .selectWhere property target => do
    let property ← textArgument scope property
    let target ← optionalValue scope target
    ListFilter.selectWhere property target input

end Filter

def FilterStep.apply (scope : Variables) (step : FilterStep) (input : Value) : Except Stop Value :=
  (step.filter.apply scope input).mapError
    (Stop.passing "Filter error" [("filter", step.source), ("input", input.source)])

structure FilterChain where
  entry : Operand
  steps : List FilterStep

def FilterChain.source (chain : FilterChain) : String :=
  chain.entry.source ++ " | " ++ " | ".intercalate (chain.steps.map FilterStep.source)

def FilterChain.evaluate (chain : FilterChain) (scope : Variables) : Except Stop Value := do
  let entry ← orStop (chain.entry.evaluate scope)
  chain.steps.foldlM (fun value step => step.apply scope value) entry

end LiveViews.Liquid
