import LiveViews.Text.Search

/-!
What the template engine reports. Lines and columns count from one.

A complaint says what is known where it arose, and then every place that it came by on its way out.
-/

namespace LiveViews.Liquid

structure Position where
  line : Nat
  column : Nat
  deriving DecidableEq

def Position.text (position : Position) : String :=
  toString position.line ++ ":" ++ toString position.column

abbrev Facts := List (String × String)

def Facts.text (facts : Facts) : String :=
  if facts.isEmpty then ""
  else "  with:\n" ++ String.join (facts.map fun fact => "    " ++ fact.1 ++ "=" ++ fact.2 ++ "\n")

structure Passage where
  origin : String
  facts : Facts
  deriving DecidableEq

def Passage.text (passage : Passage) : String :=
  "from: " ++ passage.origin ++ "\n" ++ passage.facts.text

inductive EngineError where
  | malformed (position : Position)
  | unexpected (position : Position)
  | located (position : Position) (complaint : String)
  | plain (complaint : String) (facts : Facts) (passages : List Passage)
  deriving DecidableEq

namespace EngineError

def complaint (text : String) (facts : Facts := []) : EngineError :=
  .plain text facts []

def invalidInput : EngineError := complaint "Invalid input"

def invalidArgument : EngineError := complaint "Invalid argument"

def expected (wanted found : String) (facts : Facts := []) : EngineError :=
  complaint ("Expected " ++ wanted ++ ", found `" ++ found ++ "`") facts

def unknownVariable (name : String) : EngineError :=
  complaint "Unknown variable" [("requested variable", name)]

def unknownIndex (path name known : String) : EngineError :=
  complaint "Unknown index"
    [("variable", path), ("requested index", name), ("available indexes", known)]

def passing (origin : String) (facts : Facts) : EngineError → EngineError
  | .plain text known passages => .plain text known (passages ++ [⟨origin, facts⟩])
  | error => error

def framed (position : Position) (text : String) : String :=
  "liquid:  --> " ++ position.text ++ "\n  = " ++ text ++ "\n"

def text : EngineError → String
  | .malformed position => framed position "expected another token"
  | .unexpected position => framed position "unexpected token"
  | .located position text => framed position text
  | .plain text facts passages =>
    "liquid: " ++ text ++ "\n" ++ facts.text ++ String.join (passages.map Passage.text)

end EngineError

inductive Stop where
  | failed (error : EngineError)
  | crashed
  /-- Templates nest deeper than the run can bear. -/
  | endless

def Stop.passing (origin : String) (facts : Facts) : Stop → Stop
  | .failed error => .failed (error.passing origin facts)
  | stop => stop

end LiveViews.Liquid
