import LiveViews.Log.Console

/-!
The status of a watch: each message takes the place of the one before.
-/

namespace LiveViews.Log

open LiveViews.Text

inductive StatusMessage where
  | success (text : String)
  | error (summary detail : String)

/-- The lines that the last message took up; none before the first one. -/
structure Status where
  lines : Nat := 0

namespace StatusMessage

def symbol : StatusMessage → String
  | .success _ => "✓"
  | .error _ _ => "✗"

def text : StatusMessage → String
  | .success text => text
  | .error summary detail => if detail.isEmpty then summary else summary ++ "\n" ++ detail

end StatusMessage

def timeOfDay (seconds : Nat) : String :=
  let two (value : Nat) : String := if value < 10 then "0" ++ toString value else toString value
  two (seconds / 3600 % 24) ++ ":" ++ two (seconds / 60 % 60) ++ ":" ++ two (seconds % 60)

def Status.clearing (status : Status) : String :=
  if status.lines = 0 then ""
  else escape ++ toString (status.lines % 65536) ++ "A" ++ escape ++ "J"

def Status.show (status : Status) (time : String) (message : StatusMessage) : String × Status :=
  (status.clearing ++ "[" ++ time ++ "] " ++ message.symbol ++ " " ++ message.text ++ "\n",
   ⟨lineCount message.text.toList⟩)

end LiveViews.Log
