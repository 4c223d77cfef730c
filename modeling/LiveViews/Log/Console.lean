import LiveViews.Log.Line
import LiveViews.Text.Bytes
import LiveViews.Text.Search

/-!
Log lines as a terminal shows them.

A message of one line is cut to the width of the terminal; one of several lines is not.
-/

namespace LiveViews.Log

open LiveViews.Text

def usualWidth : Nat := 120

def markLength (nameLength : Nat) : Nat :=
  nameLength + 3

def fitted (width : Nat) (line : LogLine) : LogLine :=
  let message := line.message.toList
  if message.contains '\n' then line
  else
    let room := width - markLength (byteLength line.part.toList)
    { line with message := String.ofList (takeBytes room message) }

def colourCode (part : String) : Nat :=
  match String.ofList (part.toList.map Char.toLower) with
  | "serve" => 94
  | "watch" => 92
  | "store" => 96
  | "render" => 95
  | "error" => 91
  | _ => 93

def escape : String := "\x1b["

def mark (coloured : Bool) (part : String) : String :=
  let plain := "[" ++ part ++ "]"
  if coloured then
    escape ++ "1;" ++ toString (colourCode part) ++ "m" ++ plain ++ escape ++ "0m"
  else plain

def writtenAt (width : Nat) (coloured : Bool) (line : LogLine) : String :=
  escape ++ "K" ++ mark coloured line.part ++ " " ++ (fitted width line).message ++ "\n"

def written (coloured : Bool) (line : LogLine) : String :=
  writtenAt usualWidth coloured line

def shown (line : LogLine) : String :=
  (fitted usualWidth line).text

end LiveViews.Log
