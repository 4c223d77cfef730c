/-!
Searching a text for a pattern. Occurrences are taken from the left and do not overlap; the empty
pattern occurs before every character and at the end.
-/

namespace LiveViews.Text

def stripPrefix? : List Char → List Char → Option (List Char)
  | [], text => some text
  | _ :: _, [] => none
  | p :: pattern, c :: text => if p = c then stripPrefix? pattern text else none

def splitOnce (pattern : List Char) : List Char → Option (List Char × List Char)
  | [] => if pattern.isEmpty then some ([], []) else none
  | c :: rest =>
    match stripPrefix? pattern (c :: rest) with
    | some after => some ([], after)
    | none => (splitOnce pattern rest).map fun parts => (c :: parts.1, parts.2)

def occursIn (pattern text : List Char) : Bool :=
  (splitOnce pattern text).isSome

/-- Pieces between the occurrences of a non-empty pattern; `skip` characters still belong to the
last occurrence, and `current` is the piece so far in reverse. -/
def piecesAfter (pattern : List Char) (skip : Nat) (current : List Char) :
    List Char → List (List Char)
  | [] => [current.reverse]
  | c :: rest =>
    match skip with
    | skip + 1 => piecesAfter pattern skip current rest
    | 0 =>
      if (stripPrefix? pattern (c :: rest)).isSome then
        current.reverse :: piecesAfter pattern (pattern.length - 1) [] rest
      else piecesAfter pattern 0 (c :: current) rest

def splitOn (pattern text : List Char) : List (List Char) :=
  match pattern with
  | [] => [[]] ++ text.map (fun c => [c]) ++ [[]]
  | _ :: _ => piecesAfter pattern 0 [] text

def joinWith (separator : List Char) : List (List Char) → List Char
  | [] => []
  | [piece] => piece
  | piece :: rest => piece ++ separator ++ joinWith separator rest

def replaceAll (pattern replacement text : List Char) : List Char :=
  joinWith replacement (splitOn pattern text)

def replaceFirst (pattern replacement text : List Char) : List Char :=
  match splitOnce pattern text with
  | some (before, after) => before ++ replacement ++ after
  | none => text

def replaced (text pattern replacement : String) : String :=
  String.ofList (replaceAll pattern.toList replacement.toList text.toList)

def joined (separator : String) (pieces : List String) : String :=
  String.ofList (joinWith separator.toList (pieces.map String.toList))

/-- The lines of a text after `current`, which stands in reverse. A carriage return before a line feed
belongs to the line's end. -/
def linesAfter (current : List Char) : List Char → List (List Char)
  | [] => if current.isEmpty then [] else [current.reverse]
  | '\n' :: rest =>
    let line := match current with
      | '\r' :: before => before
      | _ => current
    line.reverse :: linesAfter [] rest
  | c :: rest => linesAfter (c :: current) rest

def lines (text : String) : List String :=
  (linesAfter [] text.toList).map String.ofList

def firstLine (text : String) : String :=
  (lines text).headD ""

end LiveViews.Text
