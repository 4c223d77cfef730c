import LiveViews.Calendar.Reader
import LiveViews.Text.Search

/-!
Dates and times of day in TOML, alone or together, with an offset if both are there. No record has a
field for one, so that only their end in the text is looked for.
-/

namespace LiveViews.Toml

open LiveViews.Text LiveViews.Calendar

def readTwo? (least greatest : Nat) (text : List Char) : Option (Nat × List Char) :=
  (readFixed? 2 text).filter fun part => least ≤ part.1 && part.1 ≤ greatest

def passDate? (text : List Char) : Option (List Char) := do
  let (year, rest) ← readFixed? 4 text
  let rest ← stripPrefix? ['-'] rest
  let (month, rest) ← readTwo? 1 12 rest
  let rest ← stripPrefix? ['-'] rest
  let (_, rest) ← readTwo? 1 (monthLength year month) rest
  return rest

def passFraction (text : List Char) : List Char :=
  match text with
  | '.' :: rest => if rest.head?.any isDigit then rest.dropWhile isDigit else text
  | _ => text

/-- Hours, minutes and seconds; a minute may have one second more. -/
def passClock? (text : List Char) : Option (List Char) := do
  let (_, rest) ← readTwo? 0 23 text
  let rest ← stripPrefix? [':'] rest
  let (_, rest) ← readTwo? 0 59 rest
  let rest ← stripPrefix? [':'] rest
  let (_, rest) ← readTwo? 0 60 rest
  return passFraction rest

def passOffset (text : List Char) : List Char :=
  match text with
  | c :: rest =>
    if c = 'Z' ∨ c = 'z' then rest
    else if c = '+' ∨ c = '-' then
      (do
        let (_, rest) ← readTwo? 0 23 rest
        let rest ← stripPrefix? [':'] rest
        let (_, rest) ← readTwo? 0 59 rest
        return rest).getD text
    else text
  | [] => []

def passTime? (text : List Char) : Option (List Char) :=
  match passDate? text with
  | none => passClock? text
  | some rest =>
    match rest with
    | c :: after =>
      if c = 'T' ∨ c = 't' ∨ c = ' ' then some (((passClock? after).map passOffset).getD rest)
      else some rest
    | [] => some []

end LiveViews.Toml
