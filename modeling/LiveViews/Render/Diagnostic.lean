import LiveViews.Liquid.Error
import LiveViews.Text.Blank
import LiveViews.Text.Numeral
import LiveViews.Text.Search

/-!
What is reported of a text that does not compile.

A message may carry its place: the line and the column behind its first arrow.
-/

namespace LiveViews

open LiveViews.Text LiveViews.Liquid

inductive Diagnostic where
  | engine (error : EngineError)
  | message (text : String)
  deriving DecidableEq

def readPosition? (word : List Char) : Option Position := do
  let (line, column) ← splitOnce [':'] word
  let line ← readUnsigned? wordBound line
  let column ← readUnsigned? wordBound column
  return ⟨line, column⟩

def arrowPosition? (message : String) : Option Position := do
  let (_, rest) ← splitOnce "--> ".toList message.toList
  readPosition? ((trimStart rest).takeWhile fun c => !isBlank c)

/-- The part of a message that does not depend on how it is laid out. -/
inductive Summary where
  | misread
  | misplaced (position : Option Position)
  | remark (position : Option Position) (text : String)
  deriving DecidableEq

def framedDetail? (line : String) : Option String :=
  (stripPrefix? "= ".toList (trimStart line.toList)).map String.ofList

def requestLine? (line : String) : Option String :=
  if "    requested ".toList.isPrefixOf line.toList then some (String.ofList (line.toList.drop 4))
  else none

def summaryOf (message : String) : Summary :=
  let position := arrowPosition? message
  let lines := lines message
  match lines.findSome? framedDetail? with
  | some detail =>
    if detail.startsWith "expected " then .misread
    else if detail.startsWith "unexpected " then .misplaced position
    else .remark position detail
  | none =>
    .remark position (joined "\n" (firstLine message :: lines.filterMap requestLine?))

namespace Diagnostic

def text : Diagnostic → String
  | .engine error => error.text
  | .message text => text

def summary (diagnostic : Diagnostic) : Summary :=
  summaryOf diagnostic.text

def position? (diagnostic : Diagnostic) : Option Position :=
  arrowPosition? diagnostic.text

def display (diagnostic : Diagnostic) : String :=
  match diagnostic.position? with
  | some position => position.text ++ ": " ++ diagnostic.text
  | none => diagnostic.text

end Diagnostic

structure ParseError where
  diagnostics : List Diagnostic
  deriving DecidableEq

def ParseError.display (error : ParseError) : String :=
  "template parse failed" ++
    String.join (error.diagnostics.map fun diagnostic => "\n  " ++ diagnostic.display)

end LiveViews
