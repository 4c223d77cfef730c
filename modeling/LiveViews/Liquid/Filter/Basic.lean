import LiveViews.Liquid.Token

/-!
Filters: which there are, and how many arguments each takes.
-/

namespace LiveViews.Liquid

inductive Filter where
  | abs
  | append (addition : Operand)
  | atLeast (bound : Operand)
  | atMost (bound : Operand)
  | capitalize
  | ceil
  | compact (property : Option Operand)
  | concat (other : Operand)
  | date (format : Operand)
  | default (replacement : Operand)
  | dividedBy (divisor : Operand)
  | downcase
  | escape
  | escapeOnce
  | first
  | floor
  | join (separator : Option Operand)
  | last
  | lstrip
  | map (property : Operand)
  | minus (amount : Operand)
  | modulo (divisor : Operand)
  | newlineToBr
  | plus (amount : Operand)
  | prepend (addition : Operand)
  | remove (pattern : Operand)
  | removeFirst (pattern : Operand)
  | replace (pattern : Operand) (replacement : Option Operand)
  | replaceFirst (pattern : Operand) (replacement : Option Operand)
  | reverse
  | round (places : Option Operand)
  | rstrip
  | size
  | slice (offset : Operand) (length : Option Operand)
  | sort (property : Option Operand)
  | sortNatural (property : Option Operand)
  | split (pattern : Operand)
  | strip
  | stripHtml
  | stripNewlines
  | times (factor : Operand)
  | truncate (length ellipsis : Option Operand)
  | truncateWords (count ellipsis : Option Operand)
  | uniq
  | upcase
  | urlDecode
  | urlEncode
  | selectWhere (property : Operand) (target : Option Operand)

inductive FilterShape where
  | plain (filter : Filter)
  | one (make : Operand → Filter)
  | optional (make : Option Operand → Filter)
  | oneAndOptional (make : Operand → Option Operand → Filter)
  | twoOptional (make : Option Operand → Option Operand → Filter)

def filterShapes : List (String × FilterShape) := [
  ("abs", .plain .abs),
  ("append", .one .append),
  ("at_least", .one .atLeast),
  ("at_most", .one .atMost),
  ("capitalize", .plain .capitalize),
  ("ceil", .plain .ceil),
  ("compact", .optional .compact),
  ("concat", .one .concat),
  ("date", .one .date),
  ("default", .one .default),
  ("divided_by", .one .dividedBy),
  ("downcase", .plain .downcase),
  ("escape", .plain .escape),
  ("escape_once", .plain .escapeOnce),
  ("first", .plain .first),
  ("floor", .plain .floor),
  ("join", .optional .join),
  ("last", .plain .last),
  ("lstrip", .plain .lstrip),
  ("map", .one .map),
  ("minus", .one .minus),
  ("modulo", .one .modulo),
  ("newline_to_br", .plain .newlineToBr),
  ("plus", .one .plus),
  ("prepend", .one .prepend),
  ("remove", .one .remove),
  ("remove_first", .one .removeFirst),
  ("replace", .oneAndOptional .replace),
  ("replace_first", .oneAndOptional .replaceFirst),
  ("reverse", .plain .reverse),
  ("round", .optional .round),
  ("rstrip", .plain .rstrip),
  ("size", .plain .size),
  ("slice", .oneAndOptional .slice),
  ("sort", .optional .sort),
  ("sort_natural", .optional .sortNatural),
  ("split", .one .split),
  ("strip", .plain .strip),
  ("strip_html", .plain .stripHtml),
  ("strip_newlines", .plain .stripNewlines),
  ("times", .one .times),
  ("truncate", .twoOptional .truncate),
  ("truncatewords", .twoOptional .truncateWords),
  ("uniq", .plain .uniq),
  ("upcase", .plain .upcase),
  ("url_decode", .plain .urlDecode),
  ("url_encode", .plain .urlEncode),
  ("where", .oneAndOptional .selectWhere)]

def missingArguments : EngineError := .complaint "Invalid number of arguments"

def surplusArguments : EngineError := .complaint "Invalid number of positional arguments"

def unknownFilter (name : String) : EngineError :=
  .complaint "Unknown filter" [("requested filter", name),
    ("available filters", ", ".intercalate (filterShapes.map Prod.fst))]

def FilterShape.make (shape : FilterShape) (arguments : List Operand) :
    Except EngineError Filter :=
  match shape, arguments with
  | .plain filter, [] => .ok filter
  | .one make, [a] => .ok (make a)
  | .optional make, [] => .ok (make none)
  | .optional make, [a] => .ok (make (some a))
  | .oneAndOptional make, [a] => .ok (make a none)
  | .oneAndOptional make, [a, b] => .ok (make a (some b))
  | .twoOptional make, [] => .ok (make none none)
  | .twoOptional make, [a] => .ok (make (some a) none)
  | .twoOptional make, [a, b] => .ok (make (some a) (some b))
  | .one _, [] | .oneAndOptional _, [] => .error missingArguments
  | _, _ => .error surplusArguments

/-- The filter that a shape makes of a call. No filter takes named arguments. -/
def FilterShape.ofCall (shape : FilterShape) (call : FilterCall) : Except EngineError Filter := do
  let filter ← shape.make call.positional
  match call.named with
  | [] => .ok filter
  | (name, _) :: _ => .error (.complaint ("Unexpected named argument `" ++ name ++ "`"))

structure FilterStep where
  filter : Filter
  name : String
  arguments : List Operand

def FilterStep.source (step : FilterStep) : String :=
  let arguments := ", ".intercalate (step.arguments.map Operand.source)
  if step.arguments.isEmpty then step.name else step.name ++ ": " ++ arguments

def FilterCall.step (call : FilterCall) : Except EngineError FilterStep :=
  match filterShapes.find? fun entry => entry.1 = call.name with
  | none => .error (unknownFilter call.name)
  | some (_, shape) =>
    match shape.ofCall call with
    | .ok filter => .ok ⟨filter, call.name, call.positional⟩
    | .error error => .error (error.passing "Filter parsing error" [("filter", call.written)])

end LiveViews.Liquid
