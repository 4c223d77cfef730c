import LiveViews.Text.Blank
import LiveViews.Text.CaseTable

/-!
Case mapping of whole texts. A capital sigma becomes the final form exactly at the end of a word.
-/

namespace LiveViews.Text

def CaseRun.image? (run : CaseRun) (code : Nat) : Option Nat :=
  if run.first ≤ code ∧ code ≤ run.last ∧ (code - run.first) % run.step = 0 then
    some ((code : Int) + run.offset).toNat
  else none

def otherCase (sequences : List (Nat × List Nat)) (runs : List CaseRun) (c : Char) : List Char :=
  match sequences.find? fun entry => entry.1 = c.toNat with
  | some entry => entry.2.map Char.ofNat
  | none =>
    match runs.findSome? fun run => run.image? c.toNat with
    | some code => [Char.ofNat code]
    | none => [c]

def lowerChar (c : Char) : List Char :=
  if c.toNat < 128 then [c.toLower] else otherCase lowerSequences lowerRuns c

def upperChar (c : Char) : List Char :=
  if c.toNat < 128 then [c.toUpper] else otherCase upperSequences upperRuns c

def isCased (c : Char) : Bool :=
  inRanges casedRanges c

def isCaseIgnorable (c : Char) : Bool :=
  inRanges caseIgnorableRanges c

/-- Whether the first character that matters to word ends is a cased one. -/
def meetsCased (text : List Char) : Bool :=
  match text.dropWhile isCaseIgnorable with
  | c :: _ => isCased c
  | [] => false

/-- Lower case of the characters after `before`, which stands in reverse. -/
def lowerAfter (before : List Char) : List Char → List Char
  | [] => []
  | c :: rest =>
    let lowered :=
      if c = 'Σ' then [if meetsCased before && !meetsCased rest then 'ς' else 'σ']
      else lowerChar c
    lowered ++ lowerAfter (c :: before) rest

def lowercase (text : List Char) : List Char :=
  lowerAfter [] text

def uppercase (text : List Char) : List Char :=
  text.flatMap upperChar

def capitalize : List Char → List Char
  | [] => []
  | c :: rest => upperChar c ++ rest

end LiveViews.Text
